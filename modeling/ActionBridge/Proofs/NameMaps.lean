import ActionBridge.NameMap
import Mathlib.Data.List.Nodup
import Mathlib.Data.List.Perm.Basic

namespace ActionBridge

variable {α : Type}

theorem lookup_cons_eq (name key : String) (value : α) (entries : List (String × α)) :
    ((name, value) :: entries).lookup key =
      if key = name then some value else entries.lookup key := by
  rw [List.lookup_cons]
  by_cases h : key = name
  · rw [if_pos h, beq_iff_eq.2 h]
  · rw [if_neg h, beq_eq_false_iff_ne.2 h]

theorem lookup_insertByName (name key : String) (value : α) (entries : List (String × α)) :
    (insertByName name value entries).lookup key =
      if key = name then some value else entries.lookup key := by
  induction entries with
  | nil => rw [insertByName, lookup_cons_eq]
  | cons first entries ih =>
    obtain ⟨k, v⟩ := first
    rw [insertByName, lookup_cons_eq k key]
    by_cases hlt : k < name
    · rw [if_pos hlt, lookup_cons_eq, ih]
      by_cases hk : key = k
      · have hne : key ≠ name := hk ▸ String.ne_of_lt hlt
        rw [if_pos hk, if_neg hne, if_pos hk]
      · rw [if_neg hk, if_neg hk]
    · rw [if_neg hlt]
      by_cases heq : k = name
      · subst heq
        rw [if_pos rfl, lookup_cons_eq]
        by_cases hk : key = k <;> simp [hk]
      · rw [if_neg heq, lookup_cons_eq, lookup_cons_eq]

namespace NameMap

theorem get?_insert (m : NameMap α) (name key : String) (value : α) :
    (m.insert name value).get? key = if key = name then some value else m.get? key :=
  lookup_insertByName name key value m.entries

theorem names_sorted (m : NameMap α) : m.names.Pairwise (· < ·) :=
  List.pairwise_map.2 m.sorted

theorem names_nodup (m : NameMap α) : m.names.Nodup :=
  m.names_sorted.imp String.ne_of_lt

theorem mem_entries_iff {m : NameMap α} {name : String} {value : α} :
    (name, value) ∈ m.entries ↔ m.get? name = some value := by
  constructor
  · intro h
    obtain ⟨before, after, hentries⟩ := List.append_of_mem h
    have hnodup := m.names_nodup
    rw [names, hentries, List.map_append, List.map_cons] at hnodup
    rw [get?, hentries, List.lookup_eq_some_iff]
    refine ⟨before, after, rfl, fun e he => ?_⟩
    have hne : e.1 ≠ name := (List.nodup_append.1 hnodup).2.2 e.1 (List.mem_map_of_mem he) name
      List.mem_cons_self
    simpa using hne.symm
  · intro h
    obtain ⟨before, after, hentries, -⟩ := List.lookup_eq_some_iff.1 h
    rw [hentries]
    exact List.mem_append_right _ List.mem_cons_self

theorem mem_names_iff {m : NameMap α} {name : String} :
    name ∈ m.names ↔ ∃ value, m.get? name = some value := by
  simp [names, ← mem_entries_iff]

theorem ext_get? {m n : NameMap α} (h : ∀ key, m.get? key = n.get? key) : m = n := by
  have hperm : m.entries.Perm n.entries := by
    refine (List.perm_ext_iff_of_nodup (List.Nodup.of_map _ m.names_nodup)
      (List.Nodup.of_map _ n.names_nodup)).2 ?_
    intro e
    rw [mem_entries_iff, mem_entries_iff, h]
  have hentries : m.entries = n.entries :=
    hperm.eq_of_pairwise (fun _ _ _ _ hab hba => absurd hab (String.lt_asymm hba)) m.sorted n.sorted
  cases m
  cases n
  congr

end NameMap

end ActionBridge
