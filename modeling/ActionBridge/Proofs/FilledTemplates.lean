import ActionBridge.Proofs.Failures
import ActionBridge.Tree.Template

namespace ActionBridge.Tree

section

variable (gives : Tree → Option Tree → Prop)

mutual

inductive Filled : Tree → Option Tree → Prop where
  | leaf {t : Tree} {r : Option Tree} : t.isContainer = false → gives t r → Filled t r
  | sequence {items filled : List Tree} :
      FilledItems items filled → Filled (.sequence items) (some (.sequence filled))
  | mapping {entries filled : List (String × Tree)} :
      FilledEntries entries filled → Filled (.mapping entries) (some (.mapping filled))

inductive FilledItems : List Tree → List Tree → Prop where
  | nil : FilledItems [] []
  | cons {t : Tree} {ts filled : List Tree} {r : Option Tree} :
      Filled t r → FilledItems ts filled → FilledItems (t :: ts) (r.toList ++ filled)

inductive FilledEntries : List (String × Tree) → List (String × Tree) → Prop where
  | nil : FilledEntries [] []
  | cons {k : String} {t : Tree} {entries filled : List (String × Tree)} {r : Option Tree} :
      Filled t r → FilledEntries entries filled →
      FilledEntries ((k, t) :: entries) ((r.map (k, ·)).toList ++ filled)

end

end

section

variable {ε : Type} {transform : List String → Tree → Except ε (Option Tree)}
variable {gives : Tree → Option Tree → Prop}

theorem filled_leaf_iff {t : Tree} {r : Option Tree} (h : t.isContainer = false) :
    Filled gives t r ↔ gives t r := by
  constructor
  · rintro (⟨-, hgives⟩ | hitems | hentries)
    · exact hgives
    · cases h
    · cases h
  · exact .leaf h

mutual

theorem traverse_ok_iff (h : ∀ location t r, transform location t = .ok r ↔ gives t r)
    (location : List String) : ∀ (t : Tree) (r : Option Tree),
    t.traverse transform location = .ok r ↔ Filled gives t r
  | .sequence items, r => by
    rw [traverse, Except.bind_ok_iff]
    constructor
    · rintro ⟨filled, hfilled, ⟨⟩⟩
      exact .sequence ((traverseItems_ok_iff h location 0 items filled).1 hfilled)
    · rintro (⟨hleaf, -⟩ | hfilled)
      · cases hleaf
      · exact ⟨_, (traverseItems_ok_iff h location 0 items _).2 hfilled, rfl⟩
  | .mapping entries, r => by
    rw [traverse, Except.bind_ok_iff]
    constructor
    · rintro ⟨filled, hfilled, ⟨⟩⟩
      exact .mapping ((traverseEntries_ok_iff h location entries filled).1 hfilled)
    · rintro (⟨hleaf, -⟩ | _ | hfilled)
      · cases hleaf
      · exact ⟨_, (traverseEntries_ok_iff h location entries _).2 hfilled, rfl⟩
  | .null, r | .bool _, r | .number _, r | .text _, r =>
    (h location _ r).trans (filled_leaf_iff rfl).symm

theorem traverseItems_ok_iff (h : ∀ location t r, transform location t = .ok r ↔ gives t r)
    (location : List String) (index : Nat) : ∀ ts filled : List Tree,
    traverseItems transform location index ts = .ok filled ↔ FilledItems gives ts filled
  | [], filled => by
    rw [traverseItems]
    constructor
    · rintro ⟨⟩
      exact .nil
    · rintro ⟨⟩
      rfl
  | t :: ts, filled => by
    simp only [traverseItems, Except.bind_ok_iff]
    constructor
    · rintro ⟨first, hfirst, others, hothers, ⟨⟩⟩
      exact .cons ((traverse_ok_iff h _ t first).1 hfirst)
        ((traverseItems_ok_iff h location (index + 1) ts others).1 hothers)
    · rintro ⟨⟩
      rename_i others first hfirst hothers
      exact ⟨first, (traverse_ok_iff h _ t first).2 hfirst, others,
        (traverseItems_ok_iff h location (index + 1) ts others).2 hothers, rfl⟩

theorem traverseEntries_ok_iff (h : ∀ location t r, transform location t = .ok r ↔ gives t r)
    (location : List String) : ∀ entries filled : List (String × Tree),
    traverseEntries transform location entries = .ok filled ↔ FilledEntries gives entries filled
  | [], filled => by
    rw [traverseEntries]
    constructor
    · rintro ⟨⟩
      exact .nil
    · rintro ⟨⟩
      rfl
  | (k, t) :: entries, filled => by
    simp only [traverseEntries, Except.bind_ok_iff]
    constructor
    · rintro ⟨first, hfirst, others, hothers, ⟨⟩⟩
      exact .cons ((traverse_ok_iff h _ t first).1 hfirst)
        ((traverseEntries_ok_iff h location entries others).1 hothers)
    · rintro ⟨⟩
      rename_i others first hfirst hothers
      exact ⟨first, (traverse_ok_iff h _ t first).2 hfirst, others,
        (traverseEntries_ok_iff h location entries others).2 hothers, rfl⟩

end

end

end ActionBridge.Tree
