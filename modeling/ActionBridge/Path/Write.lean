import ActionBridge.Path.Access
/-!
Writing into a tree along a path. What is already there is kept: a second write to a slot makes it
a sequence, a write below a scalar wraps the scalar, and a key written into a sequence reaches all
of its mappings. A stored `null` is vacant.
-/

namespace ActionBridge

/-- What a write leaves behind, also when it stops half way. -/
structure Written (α : Type) where
  content : α
  failure : Option PathError
deriving Repr

namespace Written

def done {α : Type} (content : α) : Written α := ⟨content, none⟩

def map {α β : Type} (f : α → β) (w : Written α) : Written β := ⟨f w.content, w.failure⟩

end Written

def maxIndexGap : Nat := 1024

namespace Tree

/-- A slot after a value has been put into it: vacant slots take the value, sequences take it as
their last item, and all others become a sequence of what they held and the value. -/
def receive (value : Tree) : Tree → Tree
  | null => value
  | sequence items => sequence (items ++ [value])
  | held => sequence [held, value]

def wrapScalar (slot : Tree) : Tree :=
  if slot.shape = .scalar then sequence [slot] else slot

def freshContainer (segment : String) : Tree :=
  if (Path.index? segment).isSome then sequence [] else mapping []

def fillKey (fill : Tree → Written Tree) (key : String) : Entries → Written Entries
  | [] => (fill null).map fun t => [(key, t)]
  | (k, t) :: entries =>
    if k = key then (fill t).map fun t => (k, t) :: entries
    else (fillKey fill key entries).map ((k, t) :: ·)

def fillAt (fill : Tree → Written Tree) : Nat → List Tree → Written (List Tree)
  | _, [] => .done []
  | 0, t :: ts => (fill t).map (· :: ts)
  | i + 1, t :: ts => (fillAt fill i ts).map (t :: ·)

def fillIndex (fill : Tree → Written Tree) (index : Nat) (items : List Tree) :
    Written (List Tree) :=
  if items.length ≤ index ∧ maxIndexGap < index - items.length then
    ⟨items, some (.indexOutOfRange index items.length)⟩
  else
    fillAt fill index (items ++ List.replicate (index + 1 - items.length) null)

/-- The items of a sequence after all of its mappings have been filled; one that holds no container
gets a new mapping at its end instead. -/
def withMapping (fill : Entries → Written Entries) (items : List Tree)
    (filled : Written (List Tree)) : Written (List Tree) :=
  if items.all (!·.isContainer) then (fill []).map fun entries => items ++ [mapping entries]
  else filled

mutual

def fillMappings (deep : Bool) (fill : Entries → Written Entries) :
    List Tree → Written (List Tree)
  | [] => .done []
  | t :: ts =>
    let first := fillItem deep fill t
    match first.failure with
    | some e => ⟨first.content :: ts, some e⟩
    | none => (fillMappings deep fill ts).map (first.content :: ·)

def fillItem (deep : Bool) (fill : Entries → Written Entries) : Tree → Written Tree
  | mapping entries => (fill entries).map mapping
  | sequence items =>
    if deep then (withMapping fill items (fillMappings deep fill items)).map sequence
    else .done (sequence items)
  | scalar => .done scalar

end

def fillAcross (deep : Bool) (fill : Entries → Written Entries) (items : List Tree) :
    Written (List Tree) :=
  withMapping fill items (fillMappings deep fill items)

/-- Writes below one node; `deep` tells whether `fill` writes further below the slot. -/
def writeStep (deep : Bool) (fill : Tree → Written Tree) (segment : String) : Tree → Written Tree
  | mapping entries => (fillKey fill segment entries).map mapping
  | sequence items =>
    match Path.index? segment with
    | some index => (fillIndex fill index items).map sequence
    | none => (fillAcross deep (fillKey fill segment) items).map sequence
  | scalar => .done scalar

def writeAt (value : Tree) : List String → Tree → Written Tree
  | [], t => .done t
  | [segment], t =>
    writeStep false (fun slot => .done (receive value slot)) segment
      (if t.isNull then freshContainer segment else t)
  | segment :: next :: segments, t =>
    writeStep true (fun slot => writeAt value (next :: segments) slot.wrapScalar) segment
      (if t.isNull then freshContainer segment else t)

def set (t : Tree) (p : Path) (value : Tree) : Written Tree :=
  writeAt value p.segments t

end Tree

end ActionBridge
