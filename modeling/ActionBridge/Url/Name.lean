import ActionBridge.Text.Composition
import ActionBridge.Url.Name.Direction
import ActionBridge.Url.Name.Image
import ActionBridge.Url.Name.Joiner
import ActionBridge.Url.Punycode

namespace ActionBridge.Url.Name

def isAscii (cs : List Char) : Bool :=
  cs.all (·.toNat < 128)

def codeMark : List Char := "xn--".toList

def maxLength : Nat := 1000

def maxCode : Nat := 2000

def isFinal (cs : List Char) : Bool :=
  cs.all (fun c => form? c = some [c]) && Text.composed cs = cs

/-- The characters that a label stands for. A coded one must be the code of characters in their
final form that need a code. -/
def charsOf? (label : List Char) : Option (List Char) :=
  match Text.afterStart? codeMark label with
  | none => some label
  | some code => do
    let cs ← if isAscii code && code.length ≤ maxCode then Punycode.decode? code else none
    if !isAscii cs && isFinal cs then some cs else none

def isLabel (cs : List Char) : Bool :=
  isAscii cs || (cs.length ≤ maxLength && !cs.head?.any Text.isMark && joinersCount [] cs)

def coded (label : List Char) : List Char :=
  if isAscii label then label else codeMark ++ Punycode.encode label

def labels? (name : List Char) : Option (List (List Char)) := do
  let forms ← name.mapM form?
  return Text.splitAtChar '.' (Text.composed forms.flatten)

def ascii? (name : List Char) : Option (List Char) := do
  let labels ← labels? name
  let wide ← labels.mapM charsOf?
  if wide.all isLabel && isClear wide then some (Text.joinWith ['.'] (labels.map coded)) else none

end ActionBridge.Url.Name
