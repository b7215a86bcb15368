/-!
Labels of domain names in ASCII. The characters above ASCII are inserted into the others in the
order of their code points, and each insertion is told by its distance from the one before it, in
digits to base 36 whose thresholds adapt to the distances.
-/

namespace ActionBridge.Url.Punycode

def digit (n : Nat) : Char :=
  if n < 26 then Char.ofNat (0x61 + n) else Char.ofNat (0x30 + (n - 26))

def digitValue? (c : Char) : Option Nat :=
  if c.isLower then some (c.toNat - 0x61)
  else if c.isUpper then some (c.toNat - 0x41)
  else if c.isDigit then some (c.toNat - 0x30 + 26)
  else none

def threshold (place bias : Nat) : Nat :=
  max 1 (min 26 (36 * place - bias))

def biasFor (scaled bias : Nat) : Nat :=
  if 455 < scaled then biasFor (scaled / 35) (bias + 36)
  else bias + 36 * scaled / (scaled + 38)
termination_by scaled
decreasing_by omega

/-- Where the coding of a label stands: the last insertion, the length of the label so far, and how
the next distance is written. The first distance is scaled down more than the others. -/
structure Cursor where
  point : Nat
  index : Nat
  length : Nat
  bias : Nat
  damping : Nat
deriving DecidableEq, Repr

namespace Cursor

def start (length : Nat) : Cursor := ⟨128, 0, length, 72, 700⟩

/-- The insertions that are passed over on the way to one: every code point can go to as many
places as the longer label has. -/
def distanceTo (c : Cursor) (point index : Nat) : Nat :=
  (point - c.point) * (c.length + 1) + index - c.index

def insertionAt (c : Cursor) (distance : Nat) : Nat × Nat :=
  let passed := c.index + distance
  (c.point + passed / (c.length + 1), passed % (c.length + 1))

def move (c : Cursor) (distance point index : Nat) : Cursor :=
  let scaled := distance / c.damping
  ⟨point, index + 1, c.length + 1, biasFor (scaled + scaled / (c.length + 1)) 0, 2⟩

end Cursor

def digitsFrom (bias place n : Nat) : List Char :=
  let t := threshold place bias
  if n < t then [digit n]
  else digit (t + (n - t) % (36 - t)) :: digitsFrom bias (place + 1) ((n - t) / (36 - t))
termination_by n
decreasing_by
  have hpos : 1 ≤ threshold place bias := Nat.le_max_left _ _
  have hle := Nat.div_le_self (n - threshold place bias) (36 - threshold place bias)
  omega

def indexesOf (point before : Nat) : List Char → List Nat
  | [] => []
  | c :: cs =>
    if c.toNat = point then before :: indexesOf point (before + 1) cs
    else indexesOf point (if c.toNat < point then before + 1 else before) cs

def insertions (label : List Char) : List (Nat × Nat) :=
  let points := ((label.map Char.toNat).filter (128 ≤ ·)).mergeSort.eraseDups
  points.flatMap fun point => (indexesOf point 0 label).map (point, ·)

def encodeFrom (c : Cursor) : List (Nat × Nat) → List Char
  | [] => []
  | (point, index) :: others =>
    let distance := c.distanceTo point index
    digitsFrom c.bias 1 distance ++ encodeFrom (c.move distance point index) others

def encode (label : List Char) : List Char :=
  let basic := label.filter (·.toNat < 128)
  let lead := if basic.isEmpty then [] else basic ++ ['-']
  lead ++ encodeFrom (.start basic.length) (insertions label)

structure Reading where
  value : Nat
  weight : Nat
  place : Nat
deriving DecidableEq, Repr

def Reading.start : Reading := ⟨0, 1, 1⟩

def decodeFrom? (c : Cursor) (r : Reading) (label : List Char) : List Char → Option (List Char)
  | [] => if r = .start then some label else none
  | d :: ds => do
    let n ← digitValue? d
    let t := threshold r.place c.bias
    let value := r.value + n * r.weight
    if Nat.pow 2 32 ≤ value then none
    else if t ≤ n then decodeFrom? c ⟨value, r.weight * (36 - t), r.place + 1⟩ label ds
    else
      let (point, index) := c.insertionAt value
      if point.isValidChar then
        decodeFrom? (c.move value point index) .start (label.insertIdx index (Char.ofNat point)) ds
      else none

/-- The label behind its ASCII form. What comes before the last hyphen stands as it is; there is no
hyphen where nothing comes before it. -/
def decode? (cs : List Char) : Option (List Char) :=
  let digits := (cs.reverse.takeWhile (· ≠ '-')).reverse
  let basic := cs.take (cs.length - digits.length - 1)
  if cs.head? = some '-' && basic.isEmpty then none
  else decodeFrom? (.start basic.length) .start basic digits

end ActionBridge.Url.Punycode
