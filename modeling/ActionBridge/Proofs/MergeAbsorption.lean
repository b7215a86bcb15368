import ActionBridge.Proofs.MergeCompletion
/-!
A merge leaves behind a tree that holds its source. Such a tree has nothing more to take from the
source, and it still holds it after other merges.
-/

namespace ActionBridge.Tree

mutual

def EachMapping (P : Entries → Prop) : Tree → Prop
  | mapping entries => P entries
  | sequence items => EachMappingOf P items
  | _ => True

def EachMappingOf (P : Entries → Prop) : List Tree → Prop
  | [] => True
  | t :: ts => EachMapping P t ∧ EachMappingOf P ts

end

mutual

/-- The target has all that a merge of the source would bring. -/
def Holds (excluded : String → Bool) : Tree → Tree → Prop
  | mapping source, target => target.EachMapping (HoldsEntries excluded source)
  | _, _ => True

def HoldsEntries (excluded : String → Bool) : List (String × Tree) → Entries → Prop
  | [], _ => True
  | (key, value) :: source, target =>
    (excluded key = false →
      ∃ t, target.lookup key = some t ∧ (t = null → value = null) ∧ Holds excluded value t) ∧
      HoldsEntries excluded source target

end

variable {excluded : String → Bool}

section

variable {P : Entries → Prop} {change : Entries → Entries}

mutual

theorem EachMapping.onMappings_eq (h : ∀ es, P es → change es = es) :
    ∀ {t : Tree}, t.EachMapping P → t.onMappings change = t
  | .mapping es, hp => congrArg mapping (h es hp)
  | .sequence _, hp => congrArg sequence (EachMappingOf.onMappingsItems_eq h hp)
  | .null, _ | .bool _, _ | .number _, _ | .text _, _ => rfl

theorem EachMappingOf.onMappingsItems_eq (h : ∀ es, P es → change es = es) :
    ∀ {ts : List Tree}, EachMappingOf P ts → onMappingsItems change ts = ts
  | [], _ => rfl
  | _ :: _, hp => by
    rw [onMappingsItems, EachMapping.onMappings_eq h hp.1,
      EachMappingOf.onMappingsItems_eq h hp.2]

end

mutual

theorem onMappings_each (h : ∀ es, P (change es)) :
    ∀ t : Tree, (t.onMappings change).EachMapping P
  | .mapping es => h es
  | .sequence items => onMappingsItems_each h items
  | .null | .bool _ | .number _ | .text _ => trivial

theorem onMappingsItems_each (h : ∀ es, P (change es)) :
    ∀ ts : List Tree, EachMappingOf P (onMappingsItems change ts)
  | [] => trivial
  | t :: ts => ⟨onMappings_each h t, onMappingsItems_each h ts⟩

end

mutual

theorem EachMapping.completed
    (h : ∀ es es', Completed excluded (.mapping es) (.mapping es') → P es → P es') :
    ∀ {t t' : Tree}, Completed excluded t t' → t.EachMapping P → t'.EachMapping P
  | _, _, .same _, hp => hp
  | _, _, .sequence hi, hp => EachMappingOf.completed h hi hp
  | _, _, .mapping he hf ha, hp => h _ _ (.mapping he hf ha) hp

theorem EachMappingOf.completed
    (h : ∀ es es', Completed excluded (.mapping es) (.mapping es') → P es → P es') :
    ∀ {ts ts' : List Tree}, ItemsCompleted excluded ts ts' → EachMappingOf P ts →
      EachMappingOf P ts'
  | _, _, .nil, hp => hp
  | _, _, .cons ht hts, hp => ⟨EachMapping.completed h ht hp.1, EachMappingOf.completed h hts hp.2⟩

end

end

mutual

theorem Holds.merge_eq : ∀ {source target : Tree}, Holds excluded source target →
    source.merge excluded target = target
  | .mapping _, _, h => EachMapping.onMappings_eq (fun _ => HoldsEntries.mergeEntries_eq) h
  | .sequence _, _, _ | .null, _, _ | .bool _, _, _ | .number _, _, _ | .text _, _, _ => rfl

theorem HoldsEntries.mergeEntries_eq : ∀ {source target : Entries},
    HoldsEntries excluded source target → mergeEntries excluded source target = target
  | [], _, _ => rfl
  | (key, value) :: source, target, ⟨hkey, hrest⟩ => by
    rw [mergeEntries_cons]
    suffices hstep : mergeEntry excluded key value target = target by
      rw [hstep]
      exact hrest.mergeEntries_eq
    rw [mergeEntry]
    split
    · rfl
    · next hk =>
      obtain ⟨t, ht, hnull, hh⟩ := hkey (Bool.eq_false_iff.2 hk)
      split
      · next hv =>
        rw [ht] at hv
        have htn : t = null := eq_null_of_absent hv
        subst htn
        rw [hnull rfl]
        exact Entries.put_of_lookup ht
      · exact Entries.modifyKey_of_lookup ht hh.merge_eq

end

mutual

theorem Holds.completed : ∀ {source t t' : Tree}, Completed excluded t t' →
    Holds excluded source t → Holds excluded source t'
  | .mapping _, _, _, hc, h => EachMapping.completed (fun _ _ => HoldsEntries.completed) hc h
  | .sequence _, _, _, _, _ | .null, _, _, _, _ | .bool _, _, _, _, _ => trivial
  | .number _, _, _, _, _ | .text _, _, _, _, _ => trivial

theorem HoldsEntries.completed : ∀ {source es es' : Entries},
    Completed excluded (.mapping es) (.mapping es') → HoldsEntries excluded source es →
      HoldsEntries excluded source es'
  | [], _, _, _, _ => trivial
  | (key, value) :: source, es, es', hc, ⟨hkey, hrest⟩ => by
    refine ⟨fun hk => ?_, hrest.completed hc⟩
    obtain ⟨t, ht, hnull, hh⟩ := hkey hk
    rcases hc.lookup_cases key with ⟨u, u', hu, hu', hs⟩ | ⟨hu, -⟩
    · have hut : u = t := Option.some.inj (hu.symm.trans ht)
      subst hut
      cases hs with
      | same => exact ⟨u, hu', hnull, hh⟩
      | filled =>
        have hvalue := hnull rfl
        subst hvalue
        exact ⟨u', hu', fun _ => rfl, trivial⟩
      | deeper _ ht =>
        refine ⟨u', hu', ?_, hh.completed ht⟩
        rintro rfl
        exact hnull ht.eq_null
    · cases hu.symm.trans ht

end

section

theorem strip_eq_null {t : Tree} (h : t.strip excluded = null) : t = null := by
  cases t with
  | null => rfl
  | bool | number | text | sequence | mapping => cases h

theorem lookup_stripEntries {es : Entries} (hn : (es.map (·.1)).Nodup) :
    ∀ e ∈ es, excluded e.1 = false →
      (stripEntries excluded es).lookup e.1 = some (e.2.strip excluded) := by
  induction es with
  | nil => simp
  | cons e' es ih =>
    obtain ⟨k, t⟩ := e'
    obtain ⟨hfresh, hn⟩ := List.nodup_cons.1 hn
    intro e hmem hk
    rw [stripEntries]
    rcases List.mem_cons.1 hmem with rfl | he
    · rw [if_neg (Bool.eq_false_iff.1 hk), List.lookup_cons_self]
    · have hne : (e.1 == k) = false := by
        apply beq_false_of_ne
        intro hkey
        apply hfresh
        rw [← hkey]
        exact List.mem_map.2 ⟨e, he, rfl⟩
      split
      · exact ih hn e he hk
      · rw [List.lookup_cons, hne]
        exact ih hn e he hk

mutual

theorem strip_holds : ∀ {t : Tree}, t.WellFormed → Holds excluded t (t.strip excluded)
  | .mapping _, h => holdsEntries_of_strip h.2 (lookup_stripEntries h.1)
  | .sequence _, _ | .null, _ | .bool _, _ | .number _, _ | .text _, _ => trivial

theorem holdsEntries_of_strip : ∀ {source target : Entries}, EntriesWellFormed source →
    (∀ e ∈ source, excluded e.1 = false → target.lookup e.1 = some (e.2.strip excluded)) →
      HoldsEntries excluded source target
  | [], _, _, _ => trivial
  | (_, _) :: _, _, ⟨hvalue, hsource⟩, h => by
    obtain ⟨hkey, hrest⟩ := List.forall_mem_cons.1 h
    refine ⟨fun hk => ?_, holdsEntries_of_strip hsource hrest⟩
    exact ⟨_, hkey hk, strip_eq_null, strip_holds hvalue⟩

end

mutual

theorem merge_holds : ∀ {source : Tree}, source.WellFormed → ∀ target : Tree,
    Holds excluded source (source.merge excluded target)
  | .mapping _, h, target => onMappings_each (mergeEntries_holds h.2) target
  | .sequence _, _, _ | .null, _, _ | .bool _, _, _ | .number _, _, _ | .text _, _, _ => trivial

theorem mergeEntries_holds : ∀ {source : Entries}, EntriesWellFormed source →
    ∀ target : Entries, HoldsEntries excluded source (mergeEntries excluded source target)
  | [], _, _ => trivial
  | (key, value) :: source, ⟨hvalue, hsource⟩, target => by
    rw [mergeEntries_cons]
    refine ⟨?_, mergeEntries_holds hsource _⟩
    -- the first entry is held at once, and the merge of the others does not lose it
    suffices hstep : HoldsEntries excluded [(key, value)]
        (mergeEntry excluded key value target) from
      (hstep.completed (mergeEntries_completed source _)).1
    refine ⟨fun hk => ?_, trivial⟩
    rw [mergeEntry, if_neg (Bool.eq_false_iff.1 hk)]
    split
    · exact ⟨_, Entries.lookup_put_self key _ target, strip_eq_null, strip_holds hvalue⟩
    · next hv =>
      obtain ⟨t, ht⟩ := exists_of_present hv
      rw [Entries.lookup_modifyKey, ht]
      refine ⟨_, rfl, fun hnull => ?_, merge_holds hvalue t⟩
      have hc : Completed excluded t (merge excluded value t) := merge_completed value t
      rw [hnull] at hc
      rw [ht, hc.eq_null] at hv
      exact absurd rfl hv

end

end

/-- A source that has been merged has nothing more to give, neither at once nor after another merge
has filled and extended what it brought. -/
theorem merge_again {first : Tree} (h : first.WellFormed) (second target : Tree) :
    first.merge excluded (second.merge excluded (first.merge excluded target)) =
        second.merge excluded (first.merge excluded target) ∧
      first.merge excluded (first.merge excluded target) = first.merge excluded target := by
  have hholds : Holds excluded first (first.merge excluded target) := merge_holds h target
  constructor
  · have hcompleted : Completed excluded (first.merge excluded target)
        (second.merge excluded (first.merge excluded target)) := merge_completed second _
    exact (hholds.completed hcompleted).merge_eq
  · exact hholds.merge_eq

def openOrder : Tree :=
  .mapping [("items", .sequence [.mapping [], .text "gift"]), ("total", .null)]

def orderDefaults : Tree :=
  .mapping [("items", .mapping [("unit", .text "kg")]), ("total", .int 3)]

theorem merge_again_order :
    openOrder.WellFormed ∧
      orderDefaults.merge (· = "@context") (openOrder.merge (· = "@context") (.mapping [])) =
        .mapping [("items", .sequence [.mapping [("unit", .text "kg")], .text "gift"]),
          ("total", .int 3)] ∧
      openOrder.merge (· = "@context")
          (orderDefaults.merge (· = "@context") (openOrder.merge (· = "@context") (.mapping []))) =
        orderDefaults.merge (· = "@context") (openOrder.merge (· = "@context") (.mapping [])) := by
  have h : openOrder.WellFormed :=
    ⟨by decide, ⟨⟨.nil, trivial⟩, trivial, trivial⟩, trivial, trivial⟩
  exact ⟨h, rfl, (merge_again h orderDefaults (.mapping [])).1⟩

end ActionBridge.Tree
