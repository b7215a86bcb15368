import ActionBridge.Proofs.PathSpelling

namespace ActionBridge.Path

theorem bracketKey_sublist (cs : List Char) : (bracketKey cs).Sublist cs := by
  have htrimEnd (cs : List Char) : (Text.trimEnd cs).Sublist cs := by
    have hreverse := (List.dropWhile_sublist Text.isBlank (l := cs.reverse)).reverse
    rwa [List.reverse_reverse] at hreverse
  have htrim : (Text.trim cs).Sublist cs :=
    (htrimEnd _).trans (List.dropWhile_sublist _)
  have hunquote (cs : List Char) : (unquote cs).Sublist cs := by
    cases cs with
    | nil => exact .slnil
    | cons q cs =>
      rw [unquote]
      split
      · exact (List.dropLast_sublist cs).trans (List.sublist_cons_self q cs)
      · exact .refl _
  exact (hunquote _).trans htrim

section

variable {cs ds : List Char}

theorem count_bracket_lt (inside : List Char) (h : ds.count '[' ≤ cs.count '[') :
    ('.' :: (bracketKey inside ++ ds)).count '[' < ('[' :: (inside ++ ']' :: cs)).count '[' := by
  have hkey : (bracketKey inside).count '[' ≤ inside.count '[' :=
    (bracketKey_sublist inside).count_le '['
  rw [List.count_cons_of_ne (by decide), List.count_append, List.count_cons_self,
    List.count_append, List.count_cons_of_ne (by decide)]
  omega

theorem Dotted.count_le (h : Dotted cs ds) : ds.count '[' ≤ cs.count '[' := by
  induction h with
  | nil => exact Nat.le_refl _
  | char _ _ ih =>
    rw [List.count_cons, List.count_cons]
    exact Nat.add_le_add_right ih _
  | @bracket inside _ _ _ _ ih => exact Nat.le_of_lt (count_bracket_lt inside ih)

theorem Dotted.count_lt (h : Dotted cs ds) (hopen : '[' ∈ cs) : ds.count '[' < cs.count '[' := by
  induction h with
  | nil => cases hopen
  | char hc _ ih =>
    have hopen := (List.mem_cons.1 hopen).resolve_left (Ne.symm hc)
    rw [List.count_cons, List.count_cons]
    exact Nat.add_lt_add_right (ih hopen) _
  | @bracket inside _ _ _ hds => exact count_bracket_lt inside hds.count_le

theorem flatMap_segmentsOf (cs : List Char) :
    (segmentsOf cs).flatMap String.toList = cs.filter (· ≠ '.') := by
  rw [segmentsOf, List.flatMap_map, ← Text.flatten_splitAtChar,
    ← List.flatten_filter_not_isEmpty]
  simp [List.flatMap_def]

end

theorem segmentsOf_joinWith {keys : List String} (hkeys : ∀ key ∈ keys, IsKey key) :
    segmentsOf (Text.joinWith ['.'] (keys.map String.toList)) = keys := by
  induction keys with
  | nil => rfl
  | cons key keys ih =>
    obtain ⟨hkey, hothers⟩ := List.forall_mem_cons.1 hkeys
    cases keys with
    | nil => exact segmentsOf_key hkey
    | cons next others =>
      have hjoin : Text.joinWith ['.'] ((key :: next :: others).map String.toList) =
          key.toList ++ '.' :: Text.joinWith ['.'] ((next :: others).map String.toList) := by
        simp [Text.joinWith]
      rw [hjoin, segmentsOf_append_dot, segmentsOf_key hkey, ih hothers, List.singleton_append]

section

variable {p : Path}

theorem segmentsOf_toText (hkeys : ∀ key ∈ p.segments, IsKey key) :
    segmentsOf p.toText.toList = p.segments := by
  rw [toText, Text.joinTexts, String.toList_ofList]
  exact segmentsOf_joinWith hkeys

theorem open_mem_toText_iff (hkeys : ∀ key ∈ p.segments, IsKey key) :
    '[' ∈ p.toText.toList ↔ ∃ key ∈ p.segments, '[' ∈ key.toList := by
  have hchars := flatMap_segmentsOf p.toText.toList
  rw [segmentsOf_toText hkeys] at hchars
  rw [← List.mem_flatMap, hchars]
  simp

theorem parse_toText_of_not_mem (hkeys : ∀ key ∈ p.segments, IsKey key)
    (h : '[' ∉ p.toText.toList) : parse p.toText = .ok p :=
  parse_eq_ok_iff.2 ⟨_, dotted_self h, segmentsOf_toText hkeys⟩

-- Reading a bracket uses it up, and the path that is read has one opening bracket less.
theorem not_mem_of_parse_toText (hkeys : ∀ key ∈ p.segments, IsKey key)
    (h : parse p.toText = .ok p) : '[' ∉ p.toText.toList := by
  intro hopen
  obtain ⟨ds, hds, hsegments⟩ := parse_eq_ok_iff.1 h
  have hchars : ds.filter (· ≠ '.') = p.toText.toList.filter (· ≠ '.') := by
    rw [← flatMap_segmentsOf, ← flatMap_segmentsOf, hsegments, segmentsOf_toText hkeys]
  have hcount (cs : List Char) : (cs.filter (· ≠ '.')).count '[' = cs.count '[' :=
    List.count_filter (by decide)
  have hlt := hds.count_lt hopen
  rw [← hcount, hchars, hcount] at hlt
  exact Nat.lt_irrefl _ hlt

/-- A path that has been read is read again from what is shown of it exactly when none of its keys
holds an opening bracket. -/
theorem parse_toText_iff {s : String} (h : parse s = .ok p) :
    parse p.toText = .ok p ↔ ∀ key ∈ p.segments, '[' ∉ key.toList := by
  have hkeys := isKey_of_parse h
  have hopen : (∀ key ∈ p.segments, '[' ∉ key.toList) ↔ '[' ∉ p.toText.toList := by
    rw [open_mem_toText_iff hkeys]
    simp
  rw [hopen]
  exact ⟨not_mem_of_parse_toText hkeys, parse_toText_of_not_mem hkeys⟩

end

theorem parse_toText_iff_quoted :
    let p : Path := ⟨["a b", "it's"], by decide⟩
    parse "['a b'][it's]" = .ok p ∧ (∀ key ∈ p.segments, '[' ∉ key.toList) ∧
      parse p.toText = .ok p := by
  intro p
  have hparse : parse "['a b'][it's]" = .ok p := by
    refine parse_eq_ok_iff.2 ⟨".a b.it's".toList, ?_, rfl⟩
    exact .bracket (by decide : ']' ∉ "'a b'".toList)
      (.bracket (by decide : ']' ∉ "it's".toList) .nil)
  have hplain : ∀ key ∈ p.segments, '[' ∉ key.toList := by decide
  exact ⟨hparse, hplain, (parse_toText_iff hparse).2 hplain⟩

theorem toText_reads_as_other_path :
    let p : Path := ⟨["a[bc]"], by decide⟩
    parse "[a[b]c]" = .ok p ∧ p.toText = "a[bc]" ∧
      parse p.toText = .ok ⟨["a", "bc"], by decide⟩ ∧ parse p.toText ≠ .ok p := by
  intro p
  have hparse : parse "[a[b]c]" = .ok p := by
    refine parse_eq_ok_iff.2 ⟨".a[bc]".toList, ?_, rfl⟩
    exact .bracket (by decide : ']' ∉ "a[b".toList) (dotted_self (by decide : '[' ∉ "c]".toList))
  have hshown : p.toText = "a[bc]" := rfl
  have hother : parse "a[bc]" = .ok ⟨["a", "bc"], by decide⟩ := by
    refine parse_eq_ok_iff.2 ⟨"a.bc".toList, ?_, rfl⟩
    exact .char (by decide) (.bracket (by decide : ']' ∉ "bc".toList) .nil)
  refine ⟨hparse, hshown, hshown ▸ hother, ?_⟩
  rw [hshown, hother]
  simp [p]

end ActionBridge.Path
