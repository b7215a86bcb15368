import ActionBridge.Path.Access
/-!
What may become of a tree that others are merged into. Scalars and the lengths of sequences stay;
only vacant entries are filled and new entries added, and neither brings in an excluded key.
-/

namespace ActionBridge.Tree

inductive Clean (excluded : String → Bool) : Tree → Prop where
  | leaf {t : Tree} : t.isContainer = false → Clean excluded t
  | sequence {items : List Tree} :
      (∀ t ∈ items, Clean excluded t) → Clean excluded (.sequence items)
  | mapping {entries : Entries} : (∀ e ∈ entries, excluded e.1 = false) →
      (∀ e ∈ entries, Clean excluded e.2) → Clean excluded (.mapping entries)

mutual

/-- The new tree is the old one, but for clean values in vacant or new entries of its mappings. -/
inductive Completed (excluded : String → Bool) : Tree → Tree → Prop where
  | same (t : Tree) : Completed excluded t t
  | sequence {items items' : List Tree} : ItemsCompleted excluded items items' →
      Completed excluded (.sequence items) (.sequence items')
  | mapping {entries kept added : Entries} : EntriesCompleted excluded entries kept →
      (∀ e ∈ added, e.1 ∉ entries.map (·.1)) → Clean excluded (.mapping added) →
      Completed excluded (.mapping entries) (.mapping (kept ++ added))

inductive ItemsCompleted (excluded : String → Bool) : List Tree → List Tree → Prop where
  | nil : ItemsCompleted excluded [] []
  | cons {t t' : Tree} {ts ts' : List Tree} : Completed excluded t t' →
      ItemsCompleted excluded ts ts' → ItemsCompleted excluded (t :: ts) (t' :: ts')

inductive EntriesCompleted (excluded : String → Bool) : Entries → Entries → Prop where
  | nil : EntriesCompleted excluded [] []
  | cons {k : String} {t t' : Tree} {es es' : Entries} : SlotCompleted excluded k t t' →
      EntriesCompleted excluded es es' → EntriesCompleted excluded ((k, t) :: es) ((k, t') :: es')

inductive SlotCompleted (excluded : String → Bool) : String → Tree → Tree → Prop where
  | same (k : String) (t : Tree) : SlotCompleted excluded k t t
  | filled {k : String} {new : Tree} : excluded k = false → Clean excluded new →
      SlotCompleted excluded k null new
  | deeper {k : String} {t t' : Tree} : excluded k = false → Completed excluded t t' →
      SlotCompleted excluded k t t'

end

variable {excluded : String → Bool}

section Clean

theorem clean_sequence_iff {items : List Tree} :
    Clean excluded (.sequence items) ↔ ∀ t ∈ items, Clean excluded t := by
  constructor
  · intro h
    cases h with
    | leaf hc => cases hc
    | sequence hi => exact hi
  · exact .sequence

theorem clean_mapping_iff {entries : Entries} :
    Clean excluded (.mapping entries) ↔
      ∀ e ∈ entries, excluded e.1 = false ∧ Clean excluded e.2 := by
  constructor
  · intro h
    cases h with
    | leaf hc => cases hc
    | mapping hk hv => exact fun e he => ⟨hk e he, hv e he⟩
  · intro h
    exact .mapping (fun e he => (h e he).1) fun e he => (h e he).2

theorem clean_mapping_cons {k : String} {t : Tree} {es : Entries} :
    Clean excluded (.mapping ((k, t) :: es)) ↔
      (excluded k = false ∧ Clean excluded t) ∧ Clean excluded (.mapping es) := by
  simp only [clean_mapping_iff, List.forall_mem_cons]

theorem clean_mapping_append {a b : Entries} :
    Clean excluded (.mapping (a ++ b)) ↔
      Clean excluded (.mapping a) ∧ Clean excluded (.mapping b) := by
  simp only [clean_mapping_iff, List.forall_mem_append]

theorem mem_of_lookup_eq_some {k : String} {t : Tree} {es : Entries} (h : es.lookup k = some t) :
    (k, t) ∈ es := by
  obtain ⟨before, after, rfl, -⟩ := List.lookup_eq_some_iff.1 h
  exact List.mem_append_right _ List.mem_cons_self

theorem Clean.step? {t u : Tree} {segment : String} (h : Clean excluded t)
    (hu : t.step? segment = some u) : Clean excluded u := by
  cases t with
  | mapping entries => exact (clean_mapping_iff.1 h _ (mem_of_lookup_eq_some hu)).2
  | sequence items =>
    obtain ⟨i, -, hi⟩ := Option.bind_eq_some_iff.1 hu
    exact clean_sequence_iff.1 h u (List.mem_of_getElem? hi)
  | null | bool | number | text => cases hu

theorem Clean.lookup?_follow? {t : Tree} {k : String} (h : Clean excluded t)
    (hk : excluded k = true) (q : List String) : (t.follow? q).bind (lookup? k) = none := by
  induction q generalizing t with
  | nil =>
    cases t with
    | mapping entries =>
      rw [Option.eq_none_iff_forall_ne_some]
      intro u hu
      have hf := (clean_mapping_iff.1 h _ (mem_of_lookup_eq_some hu)).1
      rw [hk] at hf
      cases hf
    | null | bool | number | text | sequence => rfl
  | cons segment q ih =>
    rw [follow?]
    cases hs : t.step? segment with
    | none => rfl
    | some u => exact ih (h.step? hs)

end Clean

section Transitivity

theorem EntriesCompleted.same (es : Entries) : EntriesCompleted excluded es es := by
  induction es with
  | nil => exact .nil
  | cons e es ih => exact .cons (.same e.1 e.2) ih

theorem EntriesCompleted.append {a a' b b' : Entries} (ha : EntriesCompleted excluded a a')
    (hb : EntriesCompleted excluded b b') : EntriesCompleted excluded (a ++ b) (a' ++ b') := by
  induction a generalizing a' with
  | nil => cases ha; exact hb
  | cons e es ih =>
    cases ha with
    | cons ht hes => exact .cons ht (ih hes)

theorem EntriesCompleted.split {a b new : Entries} (h : EntriesCompleted excluded (a ++ b) new) :
    ∃ a' b', new = a' ++ b' ∧ EntriesCompleted excluded a a' ∧ EntriesCompleted excluded b b' := by
  induction a generalizing new with
  | nil => exact ⟨[], new, rfl, .nil, h⟩
  | cons e es ih =>
    cases h with
    | cons ht hes =>
      obtain ⟨a', b', rfl, ha, hb⟩ := ih hes
      exact ⟨_ :: a', b', rfl, .cons ht ha, hb⟩

theorem EntriesCompleted.keys {es es' : Entries} (h : EntriesCompleted excluded es es') :
    es'.map (·.1) = es.map (·.1) := by
  induction es generalizing es' with
  | nil => cases h; rfl
  | cons e es ih =>
    cases h with
    | cons ht hes => simp only [List.map_cons, ih hes]

theorem EntriesCompleted.completed {es es' : Entries} (h : EntriesCompleted excluded es es') :
    Completed excluded (.mapping es) (.mapping es') := by
  rw [← List.append_nil es']
  exact .mapping h (by simp) (.mapping (by simp) (by simp))

mutual

theorem Completed.clean : ∀ {t t' : Tree}, Completed excluded t t' → Clean excluded t →
    Clean excluded t'
  | _, _, .same _, hc => hc
  | _, _, .sequence hi, hc => .sequence (hi.clean (clean_sequence_iff.1 hc))
  | _, _, .mapping he _ ha, hc => clean_mapping_append.2 ⟨he.clean hc, ha⟩

theorem ItemsCompleted.clean : ∀ {ts ts' : List Tree}, ItemsCompleted excluded ts ts' →
    (∀ t ∈ ts, Clean excluded t) → ∀ t ∈ ts', Clean excluded t
  | _, _, .nil, hc => hc
  | _, _, .cons ht hts, hc =>
    have hc := List.forall_mem_cons.1 hc
    List.forall_mem_cons.2 ⟨ht.clean hc.1, hts.clean hc.2⟩

theorem EntriesCompleted.clean : ∀ {es es' : Entries}, EntriesCompleted excluded es es' →
    Clean excluded (.mapping es) → Clean excluded (.mapping es')
  | _, _, .nil, hc => hc
  | _, _, .cons ht hes, hc =>
    have hc := clean_mapping_cons.1 hc
    clean_mapping_cons.2 ⟨⟨hc.1.1, ht.clean hc.1.2⟩, hes.clean hc.2⟩

theorem SlotCompleted.clean : ∀ {k : String} {t t' : Tree}, SlotCompleted excluded k t t' →
    Clean excluded t → Clean excluded t'
  | _, _, _, .same _ _, hc => hc
  | _, _, _, .filled _ hn, _ => hn
  | _, _, _, .deeper _ ht, hc => ht.clean hc

end

theorem Completed.shape_eq {t t' : Tree} (h : Completed excluded t t') : t'.shape = t.shape := by
  cases h <;> rfl

theorem Completed.eq_of_shape {t t' : Tree} (h : Completed excluded t t')
    (ht : t.isContainer = false) : t' = t := by
  cases h with
  | same => rfl
  | sequence | mapping => cases ht

theorem Completed.exists_mapping {entries : Entries} {t : Tree}
    (h : Completed excluded (.mapping entries) t) : ∃ result, t = .mapping result := by
  cases h with
  | same => exact ⟨_, rfl⟩
  | mapping => exact ⟨_, rfl⟩

theorem Completed.eq_null {t : Tree} (h : Completed excluded t null) : t = null := by
  cases h
  rfl

mutual

theorem Completed.trans : ∀ {a b c : Tree}, Completed excluded a b → Completed excluded b c →
    Completed excluded a c
  | _, _, _, .same _, h => h
  | _, _, _, .sequence hi, .same _ => .sequence hi
  | _, _, _, .sequence hi, .sequence hi' => .sequence (hi.trans hi')
  | _, _, _, .mapping he hf ha, .same _ => .mapping he hf ha
  | _, _, _, .mapping he hf ha, .mapping he' hf' ha' => by
    -- the entries that came first are new to the oldest tree, together with those behind them
    obtain ⟨kept, added, rfl, hk, hn⟩ := he'.split
    rw [List.append_assoc]
    refine .mapping (he.trans hk) ?_ (clean_mapping_append.2 ⟨hn.clean ha, ha'⟩)
    intro e hmem
    rcases List.mem_append.1 hmem with hmem | hmem
    · have hkey : e.1 ∈ added.map (·.1) := List.mem_map_of_mem hmem
      rw [hn.keys] at hkey
      obtain ⟨e', he', heq⟩ := List.mem_map.1 hkey
      rw [← heq]
      exact hf e' he'
    · intro hold
      apply hf' e hmem
      rw [List.map_append, he.keys]
      exact List.mem_append_left _ hold

theorem ItemsCompleted.trans : ∀ {a b c : List Tree}, ItemsCompleted excluded a b →
    ItemsCompleted excluded b c → ItemsCompleted excluded a c
  | _, _, _, .nil, .nil => .nil
  | _, _, _, .cons ht hts, .cons ht' hts' => .cons (ht.trans ht') (hts.trans hts')

theorem EntriesCompleted.trans : ∀ {a b c : Entries}, EntriesCompleted excluded a b →
    EntriesCompleted excluded b c → EntriesCompleted excluded a c
  | _, _, _, .nil, .nil => .nil
  | _, _, _, .cons ht hes, .cons ht' hes' => .cons (ht.trans ht') (hes.trans hes')

theorem SlotCompleted.trans : ∀ {k : String} {a b c : Tree}, SlotCompleted excluded k a b →
    SlotCompleted excluded k b c → SlotCompleted excluded k a c
  | _, _, _, _, .same _ _, h => h
  | _, _, _, _, .filled hk hn, h => .filled hk (h.clean hn)
  | _, _, _, _, .deeper hk ht, .same _ _ => .deeper hk ht
  | _, _, _, _, .deeper hk ht, .filled _ hn => by
    rw [ht.eq_null]
    exact .filled hk hn
  | _, _, _, _, .deeper hk ht, .deeper _ ht' => .deeper hk (ht.trans ht')

end

end Transitivity

section Paths

variable {t t' : Tree}

theorem EntriesCompleted.lookup_cases {es es' : Entries} (h : EntriesCompleted excluded es es')
    (k : String) :
    (∃ u u', es.lookup k = some u ∧ es'.lookup k = some u' ∧ SlotCompleted excluded k u u') ∨
      (es.lookup k = none ∧ es'.lookup k = none) := by
  induction es generalizing es' with
  | nil => cases h; exact .inr ⟨rfl, rfl⟩
  | cons e es ih =>
    cases h with
    | @cons k' u u' _ es' ht hes =>
      simp only [List.lookup_cons]
      by_cases hk : k = k'
      · subst hk
        simp only [beq_self_eq_true]
        exact .inl ⟨u, u', rfl, rfl, ht⟩
      · simp only [beq_false_of_ne hk]
        exact ih hes

theorem Completed.lookup_cases (h : Completed excluded t t') (k : String) :
    (∃ u u', t.lookup? k = some u ∧ t'.lookup? k = some u' ∧ SlotCompleted excluded k u u') ∨
      (t.lookup? k = none ∧ ∀ u', t'.lookup? k = some u' → excluded k = false ∧ Clean excluded u') := by
  cases h with
  | same =>
    cases hl : t.lookup? k with
    | none => exact .inr ⟨rfl, fun u' hu => by cases hu⟩
    | some u => exact .inl ⟨u, u, rfl, rfl, .same k u⟩
  | sequence => exact .inr ⟨rfl, fun u' hu => by cases hu⟩
  | @mapping entries kept added he hf ha =>
    simp only [lookup?, List.lookup_append]
    rcases he.lookup_cases k with ⟨u, u', hu, hu', hs⟩ | ⟨hu, hu'⟩
    · rw [hu, hu']
      exact .inl ⟨u, u', rfl, rfl, hs⟩
    · rw [hu, hu']
      refine .inr ⟨rfl, fun v hv => ?_⟩
      rw [Option.none_or] at hv
      exact clean_mapping_iff.1 ha _ (mem_of_lookup_eq_some hv)

theorem ItemsCompleted.getElem?_cases {ts ts' : List Tree} (h : ItemsCompleted excluded ts ts')
    (i : Nat) :
    (∃ u u', ts[i]? = some u ∧ ts'[i]? = some u' ∧ Completed excluded u u') ∨
      (ts[i]? = none ∧ ts'[i]? = none) := by
  induction ts generalizing ts' i with
  | nil => cases h; exact .inr ⟨rfl, rfl⟩
  | cons t ts ih =>
    cases h with
    | cons ht hts =>
      cases i with
      | zero => exact .inl ⟨_, _, rfl, rfl, ht⟩
      | succ i => exact ih hts i

theorem ItemsCompleted.length_eq {ts ts' : List Tree} (h : ItemsCompleted excluded ts ts') :
    ts'.length = ts.length := by
  induction ts generalizing ts' with
  | nil => cases h; rfl
  | cons t ts ih =>
    cases h with
    | cons ht hts => simp only [List.length_cons, ih hts]

theorem Completed.step_cases (h : Completed excluded t t') (segment : String) :
    (∃ u u', t.step? segment = some u ∧ t'.step? segment = some u' ∧ Completed excluded u u') ∨
      (shapeOf? (t.step? segment) = .absent ∧
        ∀ u', t'.step? segment = some u' → Clean excluded u') := by
  cases h with
  | same =>
    cases hs : t.step? segment with
    | none => exact .inr ⟨rfl, fun u' hu => by cases hu⟩
    | some u => exact .inl ⟨u, u, rfl, rfl, .same u⟩
  | @sequence items items' hi =>
    simp only [step?]
    cases Path.index? segment with
    | none => exact .inr ⟨rfl, fun u' hu => by cases hu⟩
    | some i =>
      simp only [Option.bind_some]
      rcases hi.getElem?_cases i with ⟨u, u', hu, hu', hc⟩ | ⟨hu, hu'⟩
      · exact .inl ⟨u, u', hu, hu', hc⟩
      · rw [hu, hu']
        exact .inr ⟨rfl, fun u' hu => by cases hu⟩
  | @mapping entries kept added he hf ha =>
    rcases (Completed.mapping he hf ha).lookup_cases segment with ⟨u, u', hu, hu', hs⟩ | ⟨hu, hn⟩
    · cases hs with
      | same => exact .inl ⟨u, u, hu, hu', .same u⟩
      | filled _ hn =>
        refine .inr ⟨congrArg shapeOf? hu, fun v hv => ?_⟩
        rw [← Option.some.inj (hu'.symm.trans hv)]
        exact hn
      | deeper _ hc => exact .inl ⟨u, u', hu, hu', hc⟩
    · exact .inr ⟨congrArg shapeOf? hu, fun v hv => (hn v hv).2⟩

theorem eq_null_of_absent {t : Tree} (h : t.shape = .absent) : t = null := by
  cases t with
  | null => rfl
  | bool | number | text | sequence | mapping => cases h

theorem exists_of_present {slot : Option Tree} (h : shapeOf? slot ≠ .absent) :
    ∃ t, slot = some t := by
  cases slot with
  | none => exact absurd rfl h
  | some t => exact ⟨t, rfl⟩

theorem follow?_of_absent {slot : Option Tree} (h : shapeOf? slot = .absent) (q : List String) :
    shapeOf? (slot.bind (Tree.follow? q)) = .absent := by
  cases slot with
  | none => rfl
  | some t =>
    rw [eq_null_of_absent h]
    cases q <;> rfl

theorem lookup?_of_absent {slot : Option Tree} {k : String} (h : shapeOf? slot = .absent) :
    slot.bind (lookup? k) = none := by
  cases slot with
  | none => rfl
  | some t =>
    rw [eq_null_of_absent h]
    rfl

theorem Completed.follow? {u : Tree} (h : Completed excluded t t') {q : List String}
    (hu : t.follow? q = some u) (hs : u.shape ≠ .absent) :
    ∃ u', t'.follow? q = some u' ∧ Completed excluded u u' := by
  induction q generalizing t t' with
  | nil =>
    cases hu
    exact ⟨t', rfl, h⟩
  | cons segment q ih =>
    rw [Tree.follow?] at hu ⊢
    rcases h.step_cases segment with ⟨v, v', hv, hv', hc⟩ | ⟨ha, -⟩
    · rw [hv, Option.bind_some] at hu
      rw [hv', Option.bind_some]
      exact ih hc hu
    · -- the old path went through a vacant slot, so it led to nothing at all
      have hv := follow?_of_absent ha q
      rw [hu] at hv
      exact absurd hv hs

theorem Completed.lookup?_follow? {k : String} (h : Completed excluded t t')
    (hk : excluded k = true) (q : List String) :
    (t'.follow? q).bind (lookup? k) = (t.follow? q).bind (lookup? k) := by
  induction q generalizing t t' with
  | nil =>
    simp only [Tree.follow?, Option.bind_some]
    rcases h.lookup_cases k with ⟨u, u', hu, hu', hs⟩ | ⟨hu, hn⟩
    · rw [hu, hu']
      cases hs with
      | same => rfl
      | filled hf | deeper hf =>
        rw [hk] at hf
        cases hf
    · rw [hu, Option.eq_none_iff_forall_ne_some]
      intro v hv
      have hf := (hn v hv).1
      rw [hk] at hf
      cases hf
  | cons segment q ih =>
    simp only [Tree.follow?]
    rcases h.step_cases segment with ⟨u, u', hu, hu', hc⟩ | ⟨ha, hn⟩
    · rw [hu, hu']
      exact ih hc
    · rw [lookup?_of_absent (follow?_of_absent ha q)]
      cases hu' : t'.step? segment with
      | none => rfl
      | some u' => exact (hn u' hu').lookup?_follow? hk q

theorem Completed.follow?_scalar {u : Tree} (h : Completed excluded t t') {q : List String}
    (hu : t.follow? q = some u) (hs : u.shape = .scalar) : t'.follow? q = some u := by
  obtain ⟨u', hu', hc⟩ := h.follow? hu (by simp [hs])
  rw [hu', hc.eq_of_shape (by simp [isContainer, hs, Shape.isContainer])]

theorem Completed.follow?_sequence {items : List Tree} (h : Completed excluded t t')
    {q : List String} (hu : t.follow? q = some (.sequence items)) :
    ∃ items', t'.follow? q = some (.sequence items') ∧ items'.length = items.length := by
  obtain ⟨u', hu', hc⟩ := h.follow? hu (by simp [shape])
  cases hc with
  | same => exact ⟨items, hu', rfl⟩
  | sequence hi => exact ⟨_, hu', hi.length_eq⟩

end Paths

end ActionBridge.Tree
