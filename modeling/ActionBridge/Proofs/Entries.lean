import ActionBridge.Tree.Merge

namespace ActionBridge

namespace Entries

theorem first_or_new (entries : Entries) (key : String) :
    (∃ before t after, entries = before ++ (key, t) :: after ∧ key ∉ before.map (·.1)) ∨
      key ∉ entries.map (·.1) := by
  induction entries with
  | nil => exact .inr (by simp)
  | cons e es ih =>
    obtain ⟨k, t⟩ := e
    by_cases hk : key = k
    · subst hk
      exact .inl ⟨[], t, es, rfl, by simp⟩
    · rcases ih with ⟨before, u, after, rfl, hn⟩ | hn
      · refine .inl ⟨(k, t) :: before, u, after, rfl, ?_⟩
        simp only [List.map_cons, List.mem_cons, not_or]
        exact ⟨hk, hn⟩
      · right
        simp only [List.map_cons, List.mem_cons, not_or]
        exact ⟨hk, hn⟩

variable {key : String} {t : Tree} {entries before after : Entries}

theorem lookup_first (hn : key ∉ before.map (·.1)) :
    (before ++ (key, t) :: after).lookup key = some t := by
  refine List.lookup_eq_some_iff.2 ⟨before, after, rfl, fun e he => ?_⟩
  simp only [bne_iff_ne, ne_eq]
  rintro rfl
  exact hn (List.mem_map_of_mem he)

theorem lookup_new (hn : key ∉ entries.map (·.1)) : entries.lookup key = none := by
  refine List.lookup_eq_none_iff.2 fun e he => ?_
  simp only [bne_iff_ne, ne_eq]
  rintro rfl
  exact hn (List.mem_map_of_mem he)

theorem put_first (hn : key ∉ before.map (·.1)) (value : Tree) :
    put key value (before ++ (key, t) :: after) = before ++ (key, value) :: after := by
  induction before with
  | nil => simp [put]
  | cons e es ih =>
    simp only [List.map_cons, List.mem_cons, not_or] at hn
    simp only [List.cons_append, put, if_neg (Ne.symm hn.1), ih hn.2]

theorem put_new (hn : key ∉ entries.map (·.1)) (value : Tree) :
    put key value entries = entries ++ [(key, value)] := by
  induction entries with
  | nil => rfl
  | cons e es ih =>
    simp only [List.map_cons, List.mem_cons, not_or] at hn
    simp only [List.cons_append, put, if_neg (Ne.symm hn.1), ih hn.2]

theorem modifyKey_first (hn : key ∉ before.map (·.1)) (change : Tree → Tree) :
    Tree.modifyKey change key (before ++ (key, t) :: after) =
      before ++ (key, change t) :: after := by
  induction before with
  | nil => simp [Tree.modifyKey]
  | cons e es ih =>
    simp only [List.map_cons, List.mem_cons, not_or] at hn
    simp only [List.cons_append, Tree.modifyKey, if_neg (Ne.symm hn.1), ih hn.2]

theorem modifyKey_new (hn : key ∉ entries.map (·.1)) (change : Tree → Tree) :
    Tree.modifyKey change key entries = entries := by
  induction entries with
  | nil => rfl
  | cons e es ih =>
    simp only [List.map_cons, List.mem_cons, not_or] at hn
    simp only [Tree.modifyKey, if_neg (Ne.symm hn.1), ih hn.2]

theorem lookup_put_self (key : String) (value : Tree) (entries : Entries) :
    (put key value entries).lookup key = some value := by
  rcases first_or_new entries key with ⟨before, t, after, rfl, hn⟩ | hn
  · rw [put_first hn, lookup_first hn]
  · rw [put_new hn]
    exact lookup_first hn

theorem lookup_put_ne {other : String} (h : other ≠ key) (value : Tree) (entries : Entries) :
    (put key value entries).lookup other = entries.lookup other := by
  have hne : (other == key) = false := beq_false_of_ne h
  rcases first_or_new entries key with ⟨before, t, after, rfl, hn⟩ | hn
  · rw [put_first hn]
    simp only [List.lookup_append, List.lookup_cons, hne]
  · rw [put_new hn]
    simp only [List.lookup_append, List.lookup_cons, hne, List.lookup_nil, Option.or_none]

theorem keys_put (key : String) (value : Tree) (entries : Entries) :
    (put key value entries).map (·.1) =
      entries.map (·.1) ++ (if key ∈ entries.map (·.1) then [] else [key]) := by
  rcases first_or_new entries key with ⟨before, t, after, rfl, hn⟩ | hn
  · rw [put_first hn]
    simp
  · rw [put_new hn, if_neg hn, List.map_append]
    rfl

theorem getElem?_put_of_ne {i : Nat} {e : String × Tree} (he : entries[i]? = some e)
    (hne : e.1 ≠ key) (value : Tree) : (put key value entries)[i]? = some e := by
  induction entries generalizing i with
  | nil => cases he
  | cons first es ih =>
    obtain ⟨k, t⟩ := first
    rw [put]
    split
    · next hk =>
      cases i with
      | zero =>
        cases he
        exact absurd hk hne
      | succ i => exact he
    · cases i with
      | zero => exact he
      | succ i => exact ih he

theorem put_of_lookup (h : entries.lookup key = some t) : put key t entries = entries := by
  rcases first_or_new entries key with ⟨before, u, after, rfl, hn⟩ | hn
  · rw [lookup_first hn] at h
    rw [put_first hn, Option.some.inj h]
  · rw [lookup_new hn] at h
    cases h

theorem put_put (key : String) (first second : Tree) (entries : Entries) :
    put key second (put key first entries) = put key second entries := by
  rcases first_or_new entries key with ⟨before, t, after, rfl, hn⟩ | hn
  · rw [put_first hn, put_first hn, put_first hn]
  · rw [put_new hn, put_new hn]
    exact put_first hn second

theorem filter_put {keep : String × Tree → Bool}
    (h : ∀ t, keep (key, t) = false) (value : Tree) (entries : Entries) :
    (put key value entries).filter keep = entries.filter keep := by
  rcases first_or_new entries key with ⟨before, t, after, rfl, hn⟩ | hn
  · rw [put_first hn]
    simp [h]
  · rw [put_new hn]
    simp [h]

theorem lookup_modifyKey (change : Tree → Tree) (key : String) (entries : Entries) :
    (Tree.modifyKey change key entries).lookup key = (entries.lookup key).map change := by
  rcases first_or_new entries key with ⟨before, t, after, rfl, hn⟩ | hn
  · rw [modifyKey_first hn, lookup_first hn, lookup_first hn]
    rfl
  · rw [modifyKey_new hn, lookup_new hn]
    rfl

theorem modifyKey_eq_put {change : Tree → Tree} (h : entries.lookup key = some t) :
    Tree.modifyKey change key entries = put key (change t) entries := by
  rcases first_or_new entries key with ⟨before, u, after, rfl, hn⟩ | hn
  · rw [lookup_first hn] at h
    rw [modifyKey_first hn, put_first hn, Option.some.inj h]
  · rw [lookup_new hn] at h
    cases h

theorem modifyKey_of_lookup {change : Tree → Tree} (h : entries.lookup key = some t)
    (ht : change t = t) : Tree.modifyKey change key entries = entries := by
  rw [modifyKey_eq_put h, ht, put_of_lookup h]

theorem modifyKey_of_id {change : Tree → Tree} (h : ∀ t, change t = t) (key : String)
    (entries : Entries) : Tree.modifyKey change key entries = entries := by
  rcases first_or_new entries key with ⟨before, t, after, rfl, hn⟩ | hn
  · rw [modifyKey_first hn, h]
  · exact modifyKey_new hn change

end Entries

end ActionBridge
