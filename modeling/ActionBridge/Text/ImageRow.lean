import ActionBridge.Number.Radix
import ActionBridge.Text.Pieces
/-!
Images of characters, written as text. A row gives the images of consecutive code points: blanks
stand between images, and plus signs between the code points of one image, which are written in
hexadecimal digits.
-/

namespace ActionBridge.Text

structure ImageRow where
  first : Nat
  images : List (List Nat)
deriving DecidableEq, Repr

namespace ImageRow

def ofText (first : Nat) (text : String) : ImageRow :=
  ⟨first, (splitAtChar ' ' text.toList).map fun image =>
    (splitAtChar '+' image).filterMap (Number.ofRadix? 16)⟩

def image? (row : ImageRow) (n : Nat) : Option (List Nat) :=
  if n < row.first then none else row.images[n - row.first]?

def inverse? (row : ImageRow) (image : List Nat) : Option Nat :=
  (row.images.findIdx? (· = image)).map (row.first + ·)

end ImageRow

def readRows (rows : List (Nat × String)) : List ImageRow :=
  rows.map fun (first, text) => .ofText first text

def imageIn? (rows : List ImageRow) (n : Nat) : Option (List Nat) :=
  rows.findSome? (·.image? n)

end ActionBridge.Text
