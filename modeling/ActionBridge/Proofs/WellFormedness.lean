import ActionBridge.Proofs.WriteGrowth

namespace ActionBridge.Tree

mutual

def decideWellFormed : (t : Tree) → Decidable t.WellFormed
  | .mapping entries =>
    have := decideEntriesWellFormed entries
    inferInstanceAs (Decidable (_ ∧ _))
  | .sequence items => decideItemsWellFormed items
  | .null | .bool _ | .number _ | .text _ => .isTrue trivial

def decideItemsWellFormed : (items : List Tree) → Decidable (ItemsWellFormed items)
  | [] => .isTrue trivial
  | t :: ts =>
    have := decideWellFormed t
    have := decideItemsWellFormed ts
    inferInstanceAs (Decidable (_ ∧ _))

def decideEntriesWellFormed : (entries : Entries) → Decidable (EntriesWellFormed entries)
  | [] => .isTrue trivial
  | e :: es =>
    have := decideWellFormed e.2
    have := decideEntriesWellFormed es
    inferInstanceAs (Decidable (_ ∧ _))

end

instance (t : Tree) : Decidable t.WellFormed :=
  decideWellFormed t

theorem itemsWellFormed_iff {items : List Tree} :
    ItemsWellFormed items ↔ ∀ t ∈ items, t.WellFormed := by
  induction items with
  | nil => simp [ItemsWellFormed]
  | cons t ts ih => rw [ItemsWellFormed, ih, List.forall_mem_cons]

theorem entriesWellFormed_iff {entries : Entries} :
    EntriesWellFormed entries ↔ ∀ e ∈ entries, e.2.WellFormed := by
  induction entries with
  | nil => simp [EntriesWellFormed]
  | cons e es ih => rw [EntriesWellFormed, ih, List.forall_mem_cons]

theorem wellFormed_sequence_iff {items : List Tree} :
    (sequence items).WellFormed ↔ ∀ t ∈ items, t.WellFormed :=
  itemsWellFormed_iff

theorem wellFormed_mapping_iff {entries : Entries} :
    (mapping entries).WellFormed ↔
      (entries.map (·.1)).Nodup ∧ ∀ e ∈ entries, e.2.WellFormed :=
  and_congr_right fun _ => entriesWellFormed_iff

theorem wellFormed_of_scalar {t : Tree} (h : t.isContainer = false) : t.WellFormed := by
  cases t with
  | null | bool | number | text => trivial
  | sequence | mapping => cases h

theorem wellFormed_null : null.WellFormed :=
  trivial

theorem wellFormed_empty : (mapping []).WellFormed :=
  ⟨.nil, trivial⟩

section

variable {key : String} {value : Tree} {entries : Entries}

theorem wellFormed_of_lookup (h : (mapping entries).WellFormed)
    (hv : entries.lookup key = some value) : value.WellFormed := by
  obtain ⟨before, after, rfl, -⟩ := List.lookup_eq_some_iff.1 hv
  exact (wellFormed_mapping_iff.1 h).2 (key, value) (by simp)

theorem put_wellFormed (h : (mapping entries).WellFormed) (hv : value.WellFormed) :
    (mapping (entries.put key value)).WellFormed := by
  obtain ⟨hn, hw⟩ := wellFormed_mapping_iff.1 h
  rcases entries.first_or_new key with ⟨before, t, after, rfl, hk⟩ | hk
  · rw [Entries.put_first hk]
    refine wellFormed_mapping_iff.2 ⟨?_, ?_⟩
    · simpa using hn
    · intro e he
      rcases List.mem_append.1 he with he | he
      · exact hw e (List.mem_append_left _ he)
      · rcases List.mem_cons.1 he with rfl | he
        · exact hv
        · exact hw e (List.mem_append_right _ (List.mem_cons_of_mem _ he))
  · rw [Entries.put_new hk]
    refine wellFormed_mapping_iff.2 ⟨?_, ?_⟩
    · rw [List.map_append]
      refine List.nodup_append.2 ⟨hn, by simp, ?_⟩
      rintro k hk' _ hkey rfl
      rw [List.mem_singleton.1 hkey] at hk'
      exact hk hk'
    · intro e he
      rcases List.mem_append.1 he with he | he
      · exact hw e he
      · rw [List.mem_singleton.1 he]
        exact hv

theorem modifyKey_wellFormed {change : Tree → Tree} (h : (mapping entries).WellFormed)
    (hc : ∀ t, t.WellFormed → (change t).WellFormed) :
    (mapping (modifyKey change key entries)).WellFormed := by
  rcases entries.first_or_new key with ⟨before, t, after, rfl, hk⟩ | hk
  · have ht : (before ++ (key, t) :: after).lookup key = some t := Entries.lookup_first hk
    rw [Entries.modifyKey_eq_put ht]
    exact put_wellFormed h (hc t (wellFormed_of_lookup h ht))
  · rwa [Entries.modifyKey_new hk]

end

/-! ### Merges -/

variable {excluded : String → Bool}

theorem stripEntries_keys (entries : Entries) :
    ((stripEntries excluded entries).map (·.1)).Sublist (entries.map (·.1)) := by
  induction entries with
  | nil => exact .slnil
  | cons e es ih =>
    rw [stripEntries]
    split
    · exact ih.cons _
    · exact ih.cons_cons _

mutual

theorem strip_wellFormed : ∀ {t : Tree}, t.WellFormed → (t.strip excluded).WellFormed
  | .mapping es, h => ⟨h.1.sublist (stripEntries_keys es), stripEntries_wellFormed h.2⟩
  | .sequence _, h => stripItems_wellFormed h
  | .null, _ | .bool _, _ | .number _, _ | .text _, _ => trivial

theorem stripItems_wellFormed : ∀ {ts : List Tree}, ItemsWellFormed ts →
    ItemsWellFormed (stripItems excluded ts)
  | [], _ => trivial
  | _ :: _, h => ⟨strip_wellFormed h.1, stripItems_wellFormed h.2⟩

theorem stripEntries_wellFormed : ∀ {es : Entries}, EntriesWellFormed es →
    EntriesWellFormed (stripEntries excluded es)
  | [], _ => trivial
  | _ :: _, h => by
    rw [stripEntries]
    split
    · exact stripEntries_wellFormed h.2
    · exact ⟨strip_wellFormed h.1, stripEntries_wellFormed h.2⟩

end

section

variable {change : Entries → Entries}

mutual

theorem onMappings_wellFormed
    (hc : ∀ es, (mapping es).WellFormed → (mapping (change es)).WellFormed) :
    ∀ {t : Tree}, t.WellFormed → (t.onMappings change).WellFormed
  | .mapping es, h => hc es h
  | .sequence _, h => onMappingsItems_wellFormed hc h
  | .null, _ | .bool _, _ | .number _, _ | .text _, _ => trivial

theorem onMappingsItems_wellFormed
    (hc : ∀ es, (mapping es).WellFormed → (mapping (change es)).WellFormed) :
    ∀ {ts : List Tree}, ItemsWellFormed ts → ItemsWellFormed (onMappingsItems change ts)
  | [], _ => trivial
  | _ :: _, h => ⟨onMappings_wellFormed hc h.1, onMappingsItems_wellFormed hc h.2⟩

end

end

mutual

theorem merge_wellFormed : ∀ {source : Tree}, source.WellFormed → ∀ {target : Tree},
    target.WellFormed → (source.merge excluded target).WellFormed
  | .mapping _, hs, _, ht => onMappings_wellFormed (fun _ => mergeEntries_wellFormed hs.2) ht
  | .sequence _, _, _, ht | .null, _, _, ht | .bool _, _, _, ht => ht
  | .number _, _, _, ht | .text _, _, _, ht => ht

theorem mergeEntries_wellFormed : ∀ {source : Entries}, EntriesWellFormed source →
    ∀ {target : Entries}, (mapping target).WellFormed →
      (mapping (mergeEntries excluded source target)).WellFormed
  | [], _, _, ht => ht
  | (key, value) :: source, hs, target, ht => by
    rw [mergeEntries]
    apply mergeEntries_wellFormed hs.2
    split
    · exact ht
    · split
      · exact put_wellFormed ht (strip_wellFormed hs.1)
      · exact modifyKey_wellFormed ht fun _ => merge_wellFormed hs.1

end

/-! ### Writes -/

section

variable {fill : Tree → Written Tree}

theorem fillKey_wellFormed (hf : ∀ t, t.WellFormed → (fill t).content.WellFormed) (key : String)
    {entries : Entries} (h : (mapping entries).WellFormed) :
    (mapping (fillKey fill key entries).content).WellFormed := by
  rw [fillKey_eq, Written.content_map]
  apply put_wellFormed h
  cases ht : entries.lookup key with
  | none => exact hf null wellFormed_null
  | some t => exact hf t (wellFormed_of_lookup h ht)

theorem fillAt_wellFormed (hf : ∀ t, t.WellFormed → (fill t).content.WellFormed) (index : Nat)
    {items : List Tree} (h : ItemsWellFormed items) :
    ItemsWellFormed (fillAt fill index items).content := by
  induction items generalizing index with
  | nil =>
    rw [fillAt]
    exact h
  | cons t ts ih =>
    cases index with
    | zero => exact ⟨hf t h.1, h.2⟩
    | succ i => exact ⟨h.1, ih i h.2⟩

theorem fillIndex_wellFormed (hf : ∀ t, t.WellFormed → (fill t).content.WellFormed) (index : Nat)
    {items : List Tree} (h : ItemsWellFormed items) :
    ItemsWellFormed (fillIndex fill index items).content := by
  unfold fillIndex
  split
  · exact h
  · apply fillAt_wellFormed hf
    rw [itemsWellFormed_iff] at h ⊢
    intro t ht
    rcases List.mem_append.1 ht with ht | ht
    · exact h t ht
    · rw [List.eq_of_mem_replicate ht]
      exact wellFormed_null

end

section

variable {deep : Bool} {fill : Entries → Written Entries}

theorem withMapping_wellFormed (hf : (mapping (fill []).content).WellFormed) {items : List Tree}
    {filled : Written (List Tree)} (h : ItemsWellFormed items)
    (hfilled : ItemsWellFormed filled.content) :
    ItemsWellFormed (withMapping fill items filled).content := by
  unfold withMapping
  split
  · rw [itemsWellFormed_iff] at h ⊢
    exact List.forall_mem_append.2 ⟨h, List.forall_mem_singleton.2 hf⟩
  · exact hfilled

mutual

theorem fillMappings_wellFormed
    (hf : ∀ es, (mapping es).WellFormed → (mapping (fill es).content).WellFormed) :
    ∀ {items : List Tree}, ItemsWellFormed items →
      ItemsWellFormed (fillMappings deep fill items).content
  | [], h => h
  | _ :: _, h => by
    have hfirst := fillItem_wellFormed hf h.1
    rw [fillMappings]
    split
    · exact ⟨hfirst, h.2⟩
    · exact ⟨hfirst, fillMappings_wellFormed hf h.2⟩

theorem fillItem_wellFormed
    (hf : ∀ es, (mapping es).WellFormed → (mapping (fill es).content).WellFormed) :
    ∀ {t : Tree}, t.WellFormed → (fillItem deep fill t).content.WellFormed
  | .mapping es, h => hf es h
  | .sequence items, h => by
    rw [fillItem]
    split
    · exact withMapping_wellFormed (hf [] wellFormed_empty) h (fillMappings_wellFormed hf h)
    · exact h
  | .null, h | .bool _, h | .number _, h | .text _, h => h

end

end

section

variable {value : Tree}

theorem receive_wellFormed (hv : value.WellFormed) {slot : Tree} (h : slot.WellFormed) :
    (receive value slot).WellFormed := by
  cases slot with
  | null => exact hv
  | sequence items =>
    rw [wellFormed_sequence_iff] at h
    exact wellFormed_sequence_iff.2 (List.forall_mem_append.2 ⟨h, List.forall_mem_singleton.2 hv⟩)
  | bool | number | text | mapping => exact ⟨h, hv, trivial⟩

theorem wrapScalar_wellFormed {slot : Tree} (h : slot.WellFormed) : slot.wrapScalar.WellFormed := by
  unfold wrapScalar
  split
  · exact ⟨h, trivial⟩
  · exact h

theorem freshContainer_wellFormed (segment : String) : (freshContainer segment).WellFormed := by
  unfold freshContainer
  split
  · trivial
  · exact wellFormed_empty

theorem writeStep_wellFormed {deep : Bool} {fill : Tree → Written Tree}
    (hf : ∀ t, t.WellFormed → (fill t).content.WellFormed) (segment : String) {t : Tree}
    (h : t.WellFormed) : (writeStep deep fill segment t).content.WellFormed := by
  have hk (es : Entries) (hes : (mapping es).WellFormed) :
      (mapping (fillKey fill segment es).content).WellFormed := fillKey_wellFormed hf segment hes
  cases t with
  | mapping entries => exact hk entries h
  | sequence items =>
    rw [writeStep]
    split
    · exact fillIndex_wellFormed hf _ h
    · exact withMapping_wellFormed (hk [] wellFormed_empty) h (fillMappings_wellFormed hk h)
  | null | bool | number | text => exact h

theorem writeAt_wellFormed (hv : value.WellFormed) (segments : List String) {t : Tree}
    (h : t.WellFormed) : (writeAt value segments t).content.WellFormed := by
  have hnode (segment : String) (t : Tree) (h : t.WellFormed) :
      (if t.isNull then freshContainer segment else t).WellFormed := by
    split
    · exact freshContainer_wellFormed segment
    · exact h
  fun_induction writeAt value segments t with
  | case1 t => exact h
  | case2 segment t =>
    exact writeStep_wellFormed (fun _ => receive_wellFormed hv) segment (hnode segment t h)
  | case3 segment next segments t ih =>
    apply writeStep_wellFormed _ segment (hnode segment t h)
    intro slot hslot
    exact ih slot (wrapScalar_wellFormed hslot)

theorem set_wellFormed (hv : value.WellFormed) (p : Path) {t : Tree} (h : t.WellFormed) :
    (t.set p value).content.WellFormed :=
  writeAt_wellFormed hv p.segments h

end

end ActionBridge.Tree
