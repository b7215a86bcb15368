import ActionBridge.Proofs.MergeAbsorption
import ActionBridge.Proofs.WellFormedness
import ActionBridge.Tree.KeyPattern

namespace ActionBridge.Tree

variable {excluded : String → Bool}

/-! ### Keys that are left out -/

mutual

theorem strip_nothing : ∀ t : Tree, t.strip (fun _ => false) = t
  | .mapping es => congrArg mapping (stripEntries_nothing es)
  | .sequence items => congrArg sequence (stripItems_nothing items)
  | .null | .bool _ | .number _ | .text _ => rfl

theorem stripItems_nothing : ∀ ts : List Tree, stripItems (fun _ => false) ts = ts
  | [] => rfl
  | t :: ts => by rw [stripItems, strip_nothing t, stripItems_nothing ts]

theorem stripEntries_nothing : ∀ es : Entries, stripEntries (fun _ => false) es = es
  | [] => rfl
  | (k, t) :: es => by
    rw [stripEntries, strip_nothing t, stripEntries_nothing es]
    rfl

end

mutual

theorem merge_strip : ∀ source target : Tree,
    (source.strip excluded).merge (fun _ => false) target = source.merge excluded target
  | .mapping source, target => by
    have hentries := funext (mergeEntries_strip source)
    rw [strip, merge, merge, hentries]
  | .sequence _, _ | .null, _ | .bool _, _ | .number _, _ | .text _, _ => rfl

theorem mergeEntries_strip : ∀ source target : Entries,
    mergeEntries (fun _ => false) (stripEntries excluded source) target =
      mergeEntries excluded source target
  | [], _ => rfl
  | (key, value) :: source, target => by
    rw [stripEntries, mergeEntries]
    by_cases hk : excluded key = true
    · rw [if_pos hk, if_pos hk]
      exact mergeEntries_strip source target
    · -- a copy has been stripped already, and below a value the same is true of its entries
      have hvalue := funext (merge_strip value)
      rw [if_neg hk, if_neg hk, mergeEntries, strip_nothing, hvalue]
      exact mergeEntries_strip source _

end

/-- To leave keys out of a merge is to strip them from the source first. None of them comes into the
target, and what the target has under them stays as it is. -/
theorem merge_leaves_out (pattern : KeyPattern) (source target : Tree) :
    source.merge (isExcluded (some pattern)) target =
        (source.strip pattern.test).merge (isExcluded none) target ∧
      ∀ q k, pattern.test k = true →
        ((source.merge (isExcluded (some pattern)) target).follow? q).bind (lookup? k) =
          (target.follow? q).bind (lookup? k) := by
  constructor
  · exact (merge_strip source target).symm
  · intro q k hk
    have hcompleted : Completed (isExcluded (some pattern)) target
        (source.merge (isExcluded (some pattern)) target) := merge_completed source target
    exact hcompleted.lookup?_follow? hk q

def contextPage : Tree :=
  .mapping [("@context", .text "c"),
    ("items", .sequence [.mapping [("@context", .text "d"), ("id", .int 1)]])]

theorem merge_leaves_out_context :
    KeyPattern.context.test "@context" = true ∧
      contextPage.merge (isExcluded (some .context)) (.mapping [("items", .null)]) =
        (contextPage.strip KeyPattern.context.test).merge (isExcluded none)
          (.mapping [("items", .null)]) ∧
      ((contextPage.merge (isExcluded (some .context)) (.mapping [("items", .null)])).follow?
        ["items", "0"]).bind (lookup? "@context") = none ∧
      contextPage.merge (isExcluded (some .context)) (.mapping [("items", .null)]) =
        .mapping [("items", .sequence [.mapping [("id", .int 1)]])] := by
  have hk : KeyPattern.context.test "@context" = true := by decide
  obtain ⟨hstripped, hkept⟩ :=
    merge_leaves_out .context contextPage (.mapping [("items", .null)])
  exact ⟨hk, hstripped, hkept ["items", "0"] "@context" hk, rfl⟩

/-! ### Keys that are merged -/

def keys : Tree → List String
  | mapping entries => entries.map (·.1)
  | _ => []

section

variable {key : String} {value : Tree} {source target : Entries}

theorem mergeEntry_eq_put (hk : excluded key = false) :
    mergeEntry excluded key value target = target.put key
      (if shapeOf? (target.lookup key) = .absent then strip excluded value
      else merge excluded value ((target.lookup key).getD null)) := by
  rw [mergeEntry, if_neg (Bool.eq_false_iff.1 hk)]
  by_cases hv : shapeOf? (target.lookup key) = .absent
  · rw [if_pos hv, if_pos hv]
  · obtain ⟨t, ht⟩ := exists_of_present hv
    rw [if_neg hv, if_neg hv, ht]
    exact Entries.modifyKey_eq_put ht

theorem keys_mergeEntry (key : String) (value : Tree) (target : Entries) :
    (mergeEntry excluded key value target).map (·.1) =
      target.map (·.1) ++ [key].filter fun k => !excluded k && k ∉ target.map (·.1) := by
  by_cases hk : excluded key = true
  · rw [mergeEntry, if_pos hk]
    simp [hk]
  · have hk : excluded key = false := Bool.eq_false_iff.2 hk
    rw [mergeEntry_eq_put hk, Entries.keys_put]
    by_cases hmem : key ∈ target.map (·.1)
    · simp only [hmem, if_true, List.filter, not_true, decide_false, Bool.and_false]
    · simp only [hmem, if_false, List.filter, hk, not_false_eq_true, decide_true, Bool.not_false,
        Bool.and_self]

theorem keys_mergeEntries (hn : (source.map (·.1)).Nodup) (target : Entries) :
    (mergeEntries excluded source target).map (·.1) = target.map (·.1) ++
      (source.map (·.1)).filter fun k => !excluded k && k ∉ target.map (·.1) := by
  induction source generalizing target with
  | nil => simp [mergeEntries]
  | cons e source ih =>
    obtain ⟨key, value⟩ := e
    obtain ⟨hfresh, hn⟩ := List.nodup_cons.1 hn
    have hrest : (source.map (·.1)).filter
          (fun k => !excluded k && k ∉ (mergeEntry excluded key value target).map (·.1)) =
        (source.map (·.1)).filter fun k => !excluded k && k ∉ target.map (·.1) := by
      apply List.filter_congr
      intro k hk
      have hne : k ≠ key := by
        rintro rfl
        exact hfresh hk
      have hmem : k ∈ (mergeEntry excluded key value target).map (·.1) ↔
          k ∈ target.map (·.1) := by
        rw [keys_mergeEntry, List.mem_append, List.mem_filter, List.mem_singleton]
        simp only [hne, false_and, or_false]
      simp only [hmem]
    rw [mergeEntries_cons, ih hn, hrest, keys_mergeEntry, List.append_assoc, List.map_cons,
      ← List.filter_append, List.singleton_append]

theorem lookup_mergeEntry_ne {other : String} (h : other ≠ key) :
    (mergeEntry excluded key value target).lookup other = target.lookup other := by
  by_cases hk : excluded key = true
  · rw [mergeEntry, if_pos hk]
  · rw [mergeEntry_eq_put (Bool.eq_false_iff.2 hk), Entries.lookup_put_ne h]

theorem lookup_mergeEntries_of_not_mem (h : key ∉ source.map (·.1)) (target : Entries) :
    (mergeEntries excluded source target).lookup key = target.lookup key := by
  induction source generalizing target with
  | nil => rfl
  | cons e source ih =>
    obtain ⟨k, v⟩ := e
    simp only [List.map_cons, List.mem_cons, not_or] at h
    rw [mergeEntries_cons, ih h.2, lookup_mergeEntry_ne h.1]

theorem lookup_mergeEntries (hn : (source.map (·.1)).Nodup) (hk : excluded key = false)
    (hv : source.lookup key = some value) (target : Entries) :
    (mergeEntries excluded source target).lookup key =
      some (if shapeOf? (target.lookup key) = .absent then strip excluded value
        else merge excluded value ((target.lookup key).getD null)) := by
  induction source generalizing target with
  | nil => cases hv
  | cons e source ih =>
    obtain ⟨k, v⟩ := e
    obtain ⟨hfresh, hn⟩ := List.nodup_cons.1 hn
    rw [List.lookup_cons] at hv
    rw [mergeEntries_cons]
    by_cases hkey : key = k
    · subst hkey
      simp only [beq_self_eq_true, Option.some.injEq] at hv
      rw [lookup_mergeEntries_of_not_mem hfresh, mergeEntry_eq_put hk, Entries.lookup_put_self, hv]
    · simp only [beq_false_of_ne hkey] at hv
      rw [ih hn hv, lookup_mergeEntry_ne hkey]

theorem mergeEntries_new (hn : (source.map (·.1)).Nodup)
    (hnew : ∀ k ∈ source.map (·.1), k ∉ target.map (·.1)) :
    mergeEntries excluded source target = target ++ stripEntries excluded source := by
  induction source generalizing target with
  | nil => simp [mergeEntries, stripEntries]
  | cons e source ih =>
    obtain ⟨key, value⟩ := e
    obtain ⟨hfresh, hn⟩ := List.nodup_cons.1 hn
    obtain ⟨hkey, hothers⟩ := List.forall_mem_cons.1 hnew
    rw [mergeEntries_cons, stripEntries]
    by_cases hk : excluded key = true
    · rw [mergeEntry, if_pos hk, if_pos hk, ih hn hothers]
    · have hvacant : shapeOf? (target.lookup key) = .absent := by
        rw [Entries.lookup_new hkey]
        rfl
      rw [mergeEntry_eq_put (Bool.eq_false_iff.2 hk), if_neg hk, if_pos hvacant,
        Entries.put_new hkey]
      have hrest : ∀ k ∈ source.map (·.1),
          k ∉ (target ++ [(key, value.strip excluded)]).map (·.1) := by
        intro k hk hmem
        rw [List.map_append] at hmem
        rcases List.mem_append.1 hmem with hmem | hmem
        · exact hothers k hk hmem
        · rw [List.mem_singleton.1 hmem] at hk
          exact hfresh hk
      rw [ih hn hrest, List.append_assoc, List.singleton_append]

theorem merge_into_empty (hn : (source.map (·.1)).Nodup) :
    (mapping source).merge (fun _ => false) (mapping []) = mapping source := by
  rw [merge, onMappings, mergeEntries_new hn (by simp), stripEntries_nothing, List.nil_append]

end

/-! ### Merges as unions -/

def PassesOnly (shapes : List Shape) : List String → Option Tree → Prop
  | [], _ => True
  | segment :: segments, node =>
    shapeOf? node ∈ shapes ∧ PassesOnly shapes segments (node.bind (step? segment))

/-- A target after a merge: each item of a sequence takes the merge, a leaf takes nothing, and a
mapping has all of its own and what else the source has for it. -/
structure UnionOf (excluded : String → Bool) (source target result : Tree) : Prop where
  sequence : ∀ items, target = .sequence items →
    result = .sequence (items.map (source.merge excluded))
  leaf : target.isContainer = false → result = target
  keys : target.shape = .mapping → result.shape = .mapping ∧
    result.keys = target.keys ++ source.keys.filter fun k => !excluded k && k ∉ target.keys
  -- a leaf of the source goes where the target has nothing, and at most mappings on the way
  filled : target.shape = .mapping → ∀ q w, (∀ k ∈ q, excluded k = false) →
    PassesOnly [.mapping] q (some source) → source.follow? q = some w → w.isContainer = false →
    PassesOnly [.mapping, .absent] q (some target) → shapeOf? (target.follow? q) = .absent →
      result.follow? q = some w
  kept : ∀ q u, target.follow? q = some u → u.shape = .scalar → result.follow? q = some u

theorem exists_mapping_of_shape {t : Tree} (h : t.shape = .mapping) :
    ∃ entries, t = .mapping entries := by
  cases t with
  | mapping entries => exact ⟨entries, rfl⟩
  | null | bool | number | text | sequence => cases h

theorem PassesOnly.below {shapes : List Shape} {key : String} {keys : List String}
    {entries : Entries} {t : Tree} (h : PassesOnly shapes (key :: keys) (some (.mapping entries)))
    (ht : entries.lookup key = some t) : PassesOnly shapes keys (some t) := by
  have hbelow := h.2
  rwa [Option.bind_some, step?, ht] at hbelow

theorem PassesOnly.exists_mapping {segment : String} {segments : List String} {t : Tree}
    (h : PassesOnly [.mapping] (segment :: segments) (some t)) : ∃ entries, t = .mapping entries :=
  exists_mapping_of_shape (List.mem_singleton.1 h.1)

theorem merge_sequence (source : Tree) (items : List Tree) :
    source.merge excluded (.sequence items) = .sequence (items.map (source.merge excluded)) := by
  cases source with
  | mapping entries =>
    have hitems : onMappingsItems (mergeEntries excluded entries) items =
        items.map (merge excluded (.mapping entries)) := by
      induction items with
      | nil => rfl
      | cons t ts ih => rw [onMappingsItems, ih, List.map_cons, merge]
    rw [merge, onMappings, hitems]
  | null | bool | number | text | sequence => simp [merge]

theorem merge_leaf (source : Tree) {target : Tree} (h : target.isContainer = false) :
    source.merge excluded target = target := by
  have hcompleted : Completed excluded target (source.merge excluded target) :=
    merge_completed source target
  exact hcompleted.eq_of_shape h

theorem follow?_strip {t w : Tree} {q : List String} (ht : t.WellFormed)
    (hq : ∀ k ∈ q, excluded k = false) (hp : PassesOnly [.mapping] q (some t))
    (h : t.follow? q = some w) : (t.strip excluded).follow? q = some (w.strip excluded) := by
  induction q generalizing t with
  | nil =>
    cases h
    rfl
  | cons k q ih =>
    obtain ⟨hk, hq⟩ := List.forall_mem_cons.1 hq
    obtain ⟨entries, rfl⟩ := hp.exists_mapping
    obtain ⟨u, hu, h⟩ := Option.bind_eq_some_iff.1 h
    have hstripped : (stripEntries excluded entries).lookup k = some (u.strip excluded) :=
      lookup_stripEntries ht.1 (k, u) (mem_of_lookup_eq_some hu) hk
    rw [strip, follow?, step?, hstripped]
    exact ih (wellFormed_of_lookup ht hu) hq (hp.below hu) h

theorem strip_leaf {t : Tree} (h : t.isContainer = false) : t.strip excluded = t := by
  cases t with
  | null | bool | number | text => rfl
  | sequence | mapping => cases h

theorem merge_fills {source target w : Tree} {q : List String} (hs : source.WellFormed)
    (htarget : target.shape = .mapping) (hq : ∀ k ∈ q, excluded k = false)
    (hsource : PassesOnly [.mapping] q (some source)) (hw : source.follow? q = some w)
    (hleaf : w.isContainer = false) (hpath : PassesOnly [.mapping, .absent] q (some target))
    (hend : shapeOf? (target.follow? q) = .absent) :
    (source.merge excluded target).follow? q = some w := by
  induction q generalizing source target with
  | nil =>
    have hend : target.shape = .absent := hend
    rw [htarget] at hend
    cases hend
  | cons k q ih =>
    obtain ⟨hk, hq⟩ := List.forall_mem_cons.1 hq
    obtain ⟨entries, rfl⟩ := exists_mapping_of_shape htarget
    obtain ⟨source, rfl⟩ := hsource.exists_mapping
    obtain ⟨v, hv, hw⟩ := Option.bind_eq_some_iff.1 hw
    have hvalue : v.WellFormed := wellFormed_of_lookup hs hv
    have hsource : PassesOnly [.mapping] q (some v) := hsource.below hv
    rw [merge, onMappings, follow?, step?, lookup_mergeEntries hs.1 hk hv, Option.bind_some]
    by_cases hvacant : shapeOf? (entries.lookup k) = .absent
    · rw [if_pos hvacant, follow?_strip hvalue hq hsource hw, strip_leaf hleaf]
    · obtain ⟨t, ht⟩ := exists_of_present hvacant
      have hpath : PassesOnly [.mapping, .absent] q (some t) := hpath.below ht
      have hend : shapeOf? (t.follow? q) = .absent := by
        rwa [follow?, step?, ht, Option.bind_some] at hend
      -- what stands there is not vacant, so the path goes on below it
      have hshape : t.shape = .mapping := by
        rw [ht] at hvacant
        cases q with
        | nil => exact absurd hend hvacant
        | cons _ _ =>
          rcases List.mem_cons.1 hpath.1 with hm | hm
          · exact hm
          · exact absurd (List.mem_singleton.1 hm) hvacant
      rw [if_neg hvacant, ht, Option.getD_some]
      exact ih hvalue hshape hq hsource hw hpath hend

theorem merge_unionOf {source : Tree} (hs : source.WellFormed) (target : Tree) :
    UnionOf excluded source target (source.merge excluded target) := by
  have hcompleted : Completed excluded target (source.merge excluded target) :=
    merge_completed source target
  constructor
  · rintro items rfl
    exact merge_sequence source items
  · exact merge_leaf source
  · intro ht
    obtain ⟨entries, rfl⟩ := exists_mapping_of_shape ht
    refine ⟨hcompleted.shape_eq, ?_⟩
    cases source with
    | mapping source => exact keys_mergeEntries hs.1 entries
    | null | bool | number | text | sequence => simp [merge, keys]
  · intro ht q w hq hsource hw hleaf hpath hend
    exact merge_fills hs ht hq hsource hw hleaf hpath hend
  · intro q u hu hscalar
    exact hcompleted.follow?_scalar hu hscalar

def pricelessDraft : Tree :=
  .mapping [("offer", .mapping [("price", .null)]), ("tags", .sequence [.mapping [], .text "t"])]

def pricedOffer : Tree :=
  .mapping [("@context", .text "c"), ("url", .text "u"), ("tags", .mapping [("@type", .text "T")]),
    ("offer", .mapping [("price", .int 3)])]

theorem merge_unionOf_offer :
    pricedOffer.WellFormed ∧
      (pricedOffer.merge KeyPattern.context.test pricelessDraft).keys = ["offer", "tags", "url"] ∧
      (pricedOffer.merge KeyPattern.context.test pricelessDraft).follow? ["offer", "price"] =
        some (.int 3) ∧
      (pricedOffer.merge KeyPattern.context.test pricelessDraft).follow? ["tags", "1"] =
        some (.text "t") := by
  have hs : pricedOffer.WellFormed := by decide
  have hunion : UnionOf KeyPattern.context.test pricedOffer pricelessDraft
      (pricedOffer.merge KeyPattern.context.test pricelessDraft) := merge_unionOf hs pricelessDraft
  refine ⟨hs, ?_, ?_, ?_⟩
  · rw [(hunion.keys rfl).2]
    decide
  · have hsource : PassesOnly [.mapping] ["offer", "price"] (some pricedOffer) :=
      ⟨by decide, by decide, trivial⟩
    have htarget : PassesOnly [.mapping, .absent] ["offer", "price"] (some pricelessDraft) :=
      ⟨by decide, by decide, trivial⟩
    exact hunion.filled rfl ["offer", "price"] (.int 3) (by decide) hsource rfl rfl htarget rfl
  · exact hunion.kept ["tags", "1"] (.text "t") (by rfl) rfl

end ActionBridge.Tree
