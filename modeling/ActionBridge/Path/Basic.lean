import ActionBridge.Text.Blank
import ActionBridge.Text.Pieces
import ActionBridge.Number.Numeral
/-!
Paths into a tree. A path is written with dots or brackets, so `a[0].b`, `a['0'].b` and `a.0.b` are
one path.
-/

namespace ActionBridge

inductive PathError where
  | noSegments (selector : String)
  | unclosedBracket (selector : String)
  | indexOutOfRange (index length : Nat)
deriving DecidableEq, Repr

def PathError.message : PathError → String
  | noSegments selector => "path `" ++ selector ++ "` has no segments"
  | unclosedBracket selector => "unclosed bracket in path `" ++ selector ++ "`"
  | indexOutOfRange index length =>
    "index " ++ toString index ++ " is too far past the end of a sequence of length " ++
      toString length

structure Path where
  segments : List String
  segments_ne_nil : segments ≠ []
deriving DecidableEq, Repr

namespace Path

/-- The index that a segment names in a sequence: ASCII digits alone that fit in 64 bits. -/
def index? (segment : String) : Option Nat :=
  let ds := segment.toList
  if !ds.isEmpty && ds.all Char.isDigit && Number.ofDigits ds < Nat.pow 2 64 then
    some (Number.ofDigits ds)
  else
    none

def unquote : List Char → List Char
  | [] => []
  | q :: cs =>
    if (q = '\'' || q = '"') && cs.getLast? = some q then cs.dropLast else q :: cs

def bracketKey (cs : List Char) : List Char :=
  unquote (Text.trim cs)

/-- Writes every bracket as a dot and its key; none when a bracket stays open. -/
def dotted? : List Char → Option (List Char)
  | [] => some []
  | c :: cs =>
    if c = '[' then
      match _h : cs.dropWhile (· ≠ ']') with
      | [] => none
      | _ :: rest => (dotted? rest).map ('.' :: bracketKey (cs.takeWhile (· ≠ ']')) ++ ·)
    else
      (dotted? cs).map (c :: ·)
termination_by cs => cs.length
decreasing_by
  · have := (List.dropWhile_suffix (l := cs) (· ≠ ']')).length_le
    rw [_h] at this
    simp only [List.length_cons] at this ⊢
    omega
  · simp

def segmentsOf (cs : List Char) : List String :=
  ((Text.splitAtChar '.' cs).filter (!·.isEmpty)).map String.ofList

def parse (selector : String) : Except PathError Path :=
  match dotted? selector.toList with
  | none => .error (.unclosedBracket selector)
  | some cs =>
    if h : segmentsOf cs = [] then .error (.noSegments selector) else .ok ⟨segmentsOf cs, h⟩

def toText (p : Path) : String :=
  Text.joinTexts "." p.segments

def length (p : Path) : Nat :=
  p.segments.length

def last (p : Path) : String :=
  p.segments.getLast p.segments_ne_nil

end Path

end ActionBridge
