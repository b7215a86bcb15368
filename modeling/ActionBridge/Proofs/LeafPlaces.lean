import ActionBridge.Proofs.Leaves
import ActionBridge.Proofs.WellFormedness

namespace ActionBridge.Tree

/-- Whether a place in a tree comes before another: where they part, it goes on into an item or an
entry that stands earlier. -/
inductive Precedes : Tree → List String → List String → Prop where
  | items {items : List Tree} {i j : Nat} {p q : List String} :
      i < j → Precedes (sequence items) (toString i :: p) (toString j :: q)
  | entries {entries : List (String × Tree)} {k k' : String} {p q : List String} :
      [k, k'].Sublist (entries.map (·.1)) → Precedes (mapping entries) (k :: p) (k' :: q)
  | item {items : List Tree} {i : Nat} {t : Tree} {p q : List String} :
      items[i]? = some t → Precedes t p q →
      Precedes (sequence items) (toString i :: p) (toString i :: q)
  | entry {entries : List (String × Tree)} {k : String} {t : Tree} {p q : List String} :
      (k, t) ∈ entries → Precedes t p q → Precedes (mapping entries) (k :: p) (k :: q)

theorem toString_injective {i j : Nat} (h : toString i = toString j) : i = j := by
  have hdigits : Nat.toDigits 10 i = Nat.toDigits 10 j := by
    simpa using congrArg String.toList h
  have hvalue := congrArg (fun cs => Nat.ofDigitChars 10 cs 0) hdigits
  simpa [Nat.ofDigitChars_toDigits] using hvalue

theorem pairwise_zipIdx {α : Type} (items : List α) (index : Nat) :
    (items.zipIdx index).Pairwise fun x y => x.2 < y.2 := by
  induction items generalizing index with
  | nil => exact .nil
  | cons a items ih =>
    rw [List.zipIdx_cons]
    apply List.pairwise_cons.2
    refine ⟨fun y hy => ?_, ih (index + 1)⟩
    have hle : index + 1 ≤ y.2 := List.le_snd_of_mem_zipIdx hy
    exact hle

theorem pairwise_precedes_leaves (t : Tree) :
    t.leaves.Pairwise fun l l' => t.Precedes l.1 l'.1 := by
  induction t using inductionOn with
  | leaf t h =>
    rw [leaves_leaf h]
    exact List.pairwise_singleton _ _
  | sequence items ih =>
    rw [leaves_sequence]
    apply List.pairwise_flatMap.2
    constructor
    · intro x hx
      have ht : items[x.2]? = some x.1 := List.mem_zipIdx_iff_getElem?.1 hx
      apply List.pairwise_map.2
      exact (ih x.1 (List.mem_of_getElem? ht)).imp (Precedes.item ht)
    · apply (pairwise_zipIdx items 0).imp
      intro x y hlt l hl l' hl'
      obtain ⟨l, -, rfl⟩ := List.mem_map.1 hl
      obtain ⟨l', -, rfl⟩ := List.mem_map.1 hl'
      exact .items hlt
  | mapping entries ih =>
    rw [leaves_mapping]
    apply List.pairwise_flatMap.2
    constructor
    · intro e he
      apply List.pairwise_map.2
      exact (ih e.1 e.2 he).imp (Precedes.entry he)
    · apply List.pairwise_iff_forall_sublist.2
      intro e e' hsublist l hl l' hl'
      obtain ⟨l, -, rfl⟩ := List.mem_map.1 hl
      obtain ⟨l', -, rfl⟩ := List.mem_map.1 hl'
      have hkeys : [e.1, e'.1].Sublist (entries.map (·.1)) := hsublist.map _
      exact .entries hkeys

theorem Precedes.ne {t : Tree} {p q : List String} (h : t.Precedes p q) (hw : t.WellFormed) :
    p ≠ q := by
  induction h with
  | @items items i j p q hlt =>
    intro heq
    have hij : i = j := toString_injective (List.cons.inj heq).1
    omega
  | @entries entries k k' p q hsublist =>
    intro heq
    have hnodup : [k, k'].Nodup := (wellFormed_mapping_iff.1 hw).1.sublist hsublist
    have hkk' : k = k' := (List.cons.inj heq).1
    simp [hkk'] at hnodup
  | item ht _ ih =>
    intro heq
    exact ih (wellFormed_sequence_iff.1 hw _ (List.mem_of_getElem? ht)) (List.cons.inj heq).2
  | entry ht _ ih =>
    intro heq
    exact ih ((wellFormed_mapping_iff.1 hw).2 _ ht) (List.cons.inj heq).2

theorem nodup_places {t : Tree} (h : t.WellFormed) : (t.leaves.map (·.1)).Nodup := by
  apply List.pairwise_map.2
  exact (pairwise_precedes_leaves t).imp fun hprecedes => hprecedes.ne h

end ActionBridge.Tree
