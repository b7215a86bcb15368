import ActionBridge.Number.Basic
/-!
Trees: the values that actions, rules, replies and results are made of. A mapping keeps its entries
in the order in which they were put.
-/

namespace ActionBridge

inductive Tree where
  | null
  | bool (b : Bool)
  | number (n : Number)
  | text (s : String)
  | sequence (items : List Tree)
  | mapping (entries : List (String × Tree))
deriving Repr, Inhabited

abbrev Entries := List (String × Tree)

/-- Puts a value under a key: an existing key keeps its place, and a new one goes last. -/
def Entries.put (key : String) (value : Tree) : Entries → Entries
  | [] => [(key, value)]
  | (k, t) :: entries =>
    if k = key then (k, value) :: entries else (k, t) :: Entries.put key value entries

def Entries.ofList (entries : List (String × Tree)) : Entries :=
  entries.foldl (fun acc e => acc.put e.1 e.2) []

namespace Tree

def isNull : Tree → Bool
  | null => true
  | _ => false

def isNumber : Tree → Bool
  | number _ => true
  | _ => false

def lookup? (key : String) : Tree → Option Tree
  | mapping entries => entries.lookup key
  | _ => none

def int (n : Int) : Tree :=
  number (.int n)

/-- How a slot of a tree is filled; a missing slot and a stored `null` are both vacant. -/
inductive Shape where
  | absent
  | scalar
  | sequence
  | mapping
deriving DecidableEq, Repr

def shape : Tree → Shape
  | null => .absent
  | sequence _ => .sequence
  | mapping _ => .mapping
  | _ => .scalar

def shapeOf? : Option Tree → Shape
  | some t => t.shape
  | none => .absent

def Shape.isContainer : Shape → Bool
  | .sequence => true
  | .mapping => true
  | _ => false

def isContainer (t : Tree) : Bool :=
  t.shape.isContainer

@[elab_as_elim]
theorem inductionOn {p : Tree → Prop} (leaf : ∀ t, t.isContainer = false → p t)
    (sequence : ∀ items, (∀ t ∈ items, p t) → p (.sequence items))
    (mapping : ∀ entries, (∀ k t, (k, t) ∈ entries → p t) → p (.mapping entries)) :
    ∀ t : Tree, p t
  | .sequence items => sequence items fun t _ => inductionOn leaf sequence mapping t
  | .mapping entries => mapping entries fun k t he => by
    have hsize : 1 + sizeOf k + sizeOf t < sizeOf entries := List.sizeOf_lt_of_mem he
    have : sizeOf t < 1 + sizeOf entries := by omega
    exact inductionOn leaf sequence mapping t
  | .null | .bool _ | .number _ | .text _ => leaf _ rfl

mutual

/-- No mapping of the tree has a key twice. -/
def WellFormed : Tree → Prop
  | sequence items => ItemsWellFormed items
  | mapping entries => (entries.map (·.1)).Nodup ∧ EntriesWellFormed entries
  | _ => True

def ItemsWellFormed : List Tree → Prop
  | [] => True
  | t :: ts => WellFormed t ∧ ItemsWellFormed ts

def EntriesWellFormed : List (String × Tree) → Prop
  | [] => True
  | (_, t) :: entries => WellFormed t ∧ EntriesWellFormed entries

end

end Tree

end ActionBridge
