import ActionBridge.Proofs.Completion
import ActionBridge.Proofs.Entries

namespace ActionBridge.Tree

variable {excluded : String → Bool}

section

variable {key : String} {entries : Entries}

theorem completed_put {value : Tree} (hv : shapeOf? (entries.lookup key) = .absent)
    (hk : excluded key = false) (hc : Clean excluded value) :
    Completed excluded (.mapping entries) (.mapping (entries.put key value)) := by
  rcases entries.first_or_new key with ⟨before, t, after, rfl, hn⟩ | hn
  · rw [Entries.lookup_first hn] at hv
    rw [Entries.put_first hn]
    apply EntriesCompleted.completed
    refine (EntriesCompleted.same before).append (.cons ?_ (.same after))
    cases t with
    | null => exact .filled hk hc
    | bool | number | text | sequence | mapping => cases hv
  · rw [Entries.put_new hn]
    refine .mapping (.same entries) ?_ (clean_mapping_iff.2 ?_)
    · simpa using hn
    · simpa using ⟨hk, hc⟩

theorem completed_modifyKey {change : Tree → Tree} (hk : excluded key = false)
    (hf : ∀ t, Completed excluded t (change t)) :
    Completed excluded (.mapping entries) (.mapping (modifyKey change key entries)) := by
  rcases entries.first_or_new key with ⟨before, t, after, rfl, hn⟩ | hn
  · rw [Entries.modifyKey_first hn]
    apply EntriesCompleted.completed
    exact (EntriesCompleted.same before).append (.cons (.deeper hk (hf t)) (.same after))
  · rw [Entries.modifyKey_new hn]
    exact .same _

end

section

variable {change : Entries → Entries}

mutual

theorem onMappings_completed
    (h : ∀ es, Completed excluded (.mapping es) (.mapping (change es))) :
    ∀ t, Completed excluded t (t.onMappings change)
  | .mapping es => h es
  | .sequence items => .sequence (onMappingsItems_completed h items)
  | .null | .bool _ | .number _ | .text _ => .same _

theorem onMappingsItems_completed
    (h : ∀ es, Completed excluded (.mapping es) (.mapping (change es))) :
    ∀ ts, ItemsCompleted excluded ts (onMappingsItems change ts)
  | [] => .nil
  | t :: ts => .cons (onMappings_completed h t) (onMappingsItems_completed h ts)

end

end

mutual

theorem strip_clean : ∀ t : Tree, Clean excluded (t.strip excluded)
  | .mapping entries => stripEntries_clean entries
  | .sequence items => .sequence (stripItems_clean items)
  | .null | .bool _ | .number _ | .text _ => .leaf rfl

theorem stripItems_clean : ∀ ts : List Tree, ∀ t ∈ stripItems excluded ts, Clean excluded t
  | [] => by simp [stripItems]
  | t :: ts => List.forall_mem_cons.2 ⟨strip_clean t, stripItems_clean ts⟩

theorem stripEntries_clean : ∀ es : Entries, Clean excluded (.mapping (stripEntries excluded es))
  | [] => .mapping (by simp [stripEntries]) (by simp [stripEntries])
  | (k, t) :: es => by
    rw [stripEntries]
    split
    · exact stripEntries_clean es
    · next hk =>
      exact clean_mapping_cons.2 ⟨⟨Bool.eq_false_iff.2 hk, strip_clean t⟩, stripEntries_clean es⟩

end

def mergeEntry (excluded : String → Bool) (key : String) (value : Tree) (target : Entries) :
    Entries :=
  if excluded key then target
  else if shapeOf? (target.lookup key) = .absent then target.put key (strip excluded value)
  else modifyKey (merge excluded value) key target

theorem mergeEntries_cons (key : String) (value : Tree) (source target : Entries) :
    mergeEntries excluded ((key, value) :: source) target =
      mergeEntries excluded source (mergeEntry excluded key value target) := by
  rw [mergeEntries, mergeEntry]

theorem mergeEntry_completed {value : Tree}
    (h : ∀ t, Completed excluded t (value.merge excluded t)) (key : String) (target : Entries) :
    Completed excluded (.mapping target) (.mapping (mergeEntry excluded key value target)) := by
  rw [mergeEntry]
  split
  · exact .same _
  · next hk =>
    have hk : excluded key = false := Bool.eq_false_iff.2 hk
    split
    · next hv => exact completed_put hv hk (strip_clean value)
    · exact completed_modifyKey hk h

mutual

theorem merge_completed : ∀ source target : Tree,
    Completed excluded target (source.merge excluded target)
  | .mapping source, target => onMappings_completed (mergeEntries_completed source) target
  | .sequence _, _ | .null, _ | .bool _, _ | .number _, _ | .text _, _ => .same _

theorem mergeEntries_completed : ∀ source target : Entries,
    Completed excluded (.mapping target) (.mapping (mergeEntries excluded source target))
  | [], _ => .same _
  | (key, value) :: source, target => by
    rw [mergeEntries_cons]
    exact (mergeEntry_completed (merge_completed value) key target).trans
      (mergeEntries_completed source _)

end

end ActionBridge.Tree
