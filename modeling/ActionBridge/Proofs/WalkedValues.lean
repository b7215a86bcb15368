import ActionBridge.Mapping.Reply

namespace ActionBridge

namespace Tree

mutual

def mappings : Tree → List Entries
  | mapping entries => [entries]
  | sequence items => itemMappings items
  | _ => []

def itemMappings : List Tree → List Entries
  | [] => []
  | t :: ts => mappings t ++ itemMappings ts

end

def items : Tree → List Tree
  | sequence items => items
  | _ => []

section

variable {p : Tree → Prop}

mutual

theorem forall_mappings (h : ∀ items, p (.sequence items) → ∀ t ∈ items, p t) :
    ∀ {t : Tree}, p t → ∀ entries ∈ t.mappings, p (.mapping entries)
  | .mapping _, ht, entries, he => by
    obtain rfl := List.mem_singleton.1 he
    exact ht
  | .sequence items, ht, entries, he => forall_itemMappings h (h items ht) entries he
  | .null, _, _, he | .bool _, _, _, he | .number _, _, _, he | .text _, _, _, he => by cases he

theorem forall_itemMappings (h : ∀ items, p (.sequence items) → ∀ t ∈ items, p t) :
    ∀ {ts : List Tree}, (∀ t ∈ ts, p t) → ∀ entries ∈ itemMappings ts, p (.mapping entries)
  | [], _, _, he => by cases he
  | _ :: _, hts, entries, he => by
    obtain ⟨ht, hts⟩ := List.forall_mem_cons.1 hts
    rcases List.mem_append.1 he with he | he
    · exact forall_mappings h ht entries he
    · exact forall_itemMappings h hts entries he

end

theorem forall_items (h : ∀ items, p (.sequence items) → ∀ t ∈ items, p t) {t : Tree} (ht : p t) :
    ∀ item ∈ t.items, p item := by
  cases t with
  | sequence items => exact h items ht
  | null | bool | number | text | mapping => exact fun _ hi => nomatch hi

end

end Tree

namespace Mapping

theorem lookupIn_body (key : String) (source : Entries) :
    lookupIn .body key source = source.lookup key := by
  simp [lookupIn]

theorem exists_mem_of_lookupIn {part : Section} {key : String} {source : Entries} {child : Tree}
    (h : lookupIn part key source = some child) : ∃ e ∈ source, e.2 = child := by
  unfold lookupIn at h
  split at h
  · obtain ⟨e, he, rfl⟩ := Option.map_eq_some_iff.1 h
    exact ⟨e, List.mem_of_find?_eq_some he, rfl⟩
  · obtain ⟨before, after, rfl, -⟩ := List.lookup_eq_some_iff.1 h
    exact ⟨(key, child), by simp, rfl⟩

variable {ε σ : Type}

mutual

theorem eachMapping_eq_foldlM (step : Entries → σ → Except ε σ) :
    ∀ (t : Tree) (s : σ),
      eachMapping step t s = t.mappings.foldlM (fun s entries => step entries s) s
  | .mapping entries, s => by
    rw [eachMapping, Tree.mappings, List.foldlM_cons]
    exact (bind_pure (step entries s)).symm
  | .sequence items, s => eachMappingOf_eq_foldlM step items s
  | .null, _ | .bool _, _ | .number _, _ | .text _, _ => rfl

theorem eachMappingOf_eq_foldlM (step : Entries → σ → Except ε σ) :
    ∀ (ts : List Tree) (s : σ),
      eachMappingOf step ts s = (Tree.itemMappings ts).foldlM (fun s entries => step entries s) s
  | [], _ => rfl
  | t :: ts, s => by
    rw [eachMappingOf, Tree.itemMappings, List.foldlM_append, eachMapping_eq_foldlM step t s,
      funext (eachMappingOf_eq_foldlM step ts)]

end

theorem eachItem_eq_foldlM (step : Tree → σ → Except ε σ) (source : Tree) (s : σ) :
    eachItem step source s = source.items.foldlM (fun s item => step item s) s := by
  cases source <;> rfl

section

variable (es : Evaluators) (mode : EvalMode) (part : Section) (location : List String)
  (source fragment : Tree)

theorem walk_mapping (rules : Entries) :
    walk es mode part location (.mapping rules) source fragment =
      source.mappings.foldlM
        (fun fragment entries => walkEntries es mode part location rules entries fragment)
        fragment := by
  rw [walk, eachMapping_eq_foldlM]

theorem walk_sequence (rules : List Tree) :
    walk es mode part location (.sequence rules) source fragment =
      source.items.foldlM
        (fun fragment item => walkItems es mode part location 0 rules item fragment) fragment := by
  rw [walk, eachItem_eq_foldlM]

end

end Mapping

end ActionBridge
