import ActionBridge.Text.Pieces

namespace ActionBridge.Text

variable {separator : Char}

theorem takeWhile_append_stop {p : Char → Bool} {cs rest : List Char} (h : ∀ c ∈ cs, p c = true)
    (hr : ∀ c ∈ rest.head?, p c = false) :
    (cs ++ rest).takeWhile p = cs ∧ (cs ++ rest).dropWhile p = rest := by
  rw [List.takeWhile_append_of_pos h, List.dropWhile_append_of_pos h]
  cases rest with
  | nil => simp
  | cons c rest => simp [hr c rfl]

theorem splitAtChar_ne_nil (separator : Char) (cs : List Char) : splitAtChar separator cs ≠ [] := by
  cases cs with
  | nil => exact List.cons_ne_nil _ _
  | cons c cs =>
    rw [splitAtChar]
    by_cases hc : c = separator
    · rw [if_pos hc]
      exact List.cons_ne_nil _ _
    · rw [if_neg hc]
      cases splitAtChar separator cs <;> exact List.cons_ne_nil _ _

theorem flatten_splitAtChar (separator : Char) (cs : List Char) :
    (splitAtChar separator cs).flatten = cs.filter (· ≠ separator) := by
  induction cs with
  | nil => rfl
  | cons c cs ih =>
    obtain ⟨first, others, hpieces⟩ :=
      List.exists_cons_of_ne_nil (splitAtChar_ne_nil separator cs)
    rw [splitAtChar]
    by_cases hc : c = separator
    · rw [if_pos hc, List.flatten_cons, List.nil_append, ih, List.filter_cons_of_neg (by simp [hc])]
    · rw [hpieces] at ih
      rw [if_neg hc, hpieces, extendFirst, List.flatten_cons, List.cons_append,
        ← List.flatten_cons, ih, List.filter_cons_of_pos (by simp [hc])]

theorem splitAtChar_of_not_mem {cs : List Char} (h : separator ∉ cs) :
    splitAtChar separator cs = [cs] := by
  induction cs with
  | nil => rfl
  | cons c cs ih =>
    obtain ⟨hc, hcs⟩ := List.ne_and_not_mem_of_not_mem_cons h
    rw [splitAtChar, if_neg (Ne.symm hc), ih hcs, extendFirst]

theorem splitAtChar_append (separator : Char) (cs rest : List Char) :
    splitAtChar separator (cs ++ separator :: rest) =
      splitAtChar separator cs ++ splitAtChar separator rest := by
  induction cs with
  | nil => simp [splitAtChar]
  | cons c cs ih =>
    rw [List.cons_append, splitAtChar, splitAtChar, ih]
    by_cases hc : c = separator
    · rw [if_pos hc, if_pos hc, List.cons_append]
    · obtain ⟨first, others, hpieces⟩ :=
        List.exists_cons_of_ne_nil (splitAtChar_ne_nil separator cs)
      rw [if_neg hc, if_neg hc, hpieces, List.cons_append, extendFirst, extendFirst,
        List.cons_append]

theorem splitAtChar_flatMap {cs : List Char} {pieces : List (List Char)} (hcs : separator ∉ cs)
    (h : ∀ piece ∈ pieces, separator ∉ piece) :
    splitAtChar separator (cs ++ pieces.flatMap (separator :: ·)) = cs :: pieces := by
  induction pieces generalizing cs with
  | nil => rw [List.flatMap_nil, List.append_nil, splitAtChar_of_not_mem hcs]
  | cons piece pieces ih =>
    obtain ⟨hpiece, hpieces⟩ := List.forall_mem_cons.1 h
    rw [List.flatMap_cons, List.cons_append, splitAtChar_append, splitAtChar_of_not_mem hcs,
      ih hpiece hpieces, List.singleton_append]

theorem not_mem_of_mem_splitAtChar {cs piece : List Char}
    (h : piece ∈ splitAtChar separator cs) : separator ∉ piece := by
  induction cs generalizing piece with
  | nil =>
    rw [List.mem_singleton.1 h]
    exact List.not_mem_nil
  | cons c cs ih =>
    rw [splitAtChar] at h
    by_cases hc : c = separator
    · rw [if_pos hc] at h
      rcases List.mem_cons.1 h with rfl | h
      · exact List.not_mem_nil
      · exact ih h
    · obtain ⟨first, others, hpieces⟩ :=
        List.exists_cons_of_ne_nil (splitAtChar_ne_nil separator cs)
      rw [if_neg hc, hpieces] at h
      rw [hpieces] at ih
      rcases List.mem_cons.1 h with rfl | h
      · have hfirst : separator ∉ first := ih List.mem_cons_self
        simp [Ne.symm hc, hfirst]
      · exact ih (List.mem_cons_of_mem _ h)

theorem beforeEnd?_append (final before : List Char) :
    beforeEnd? final (before ++ final) = some before := by
  have hstart : final.reverse.isPrefixOf (before ++ final).reverse = true := by
    rw [List.isPrefixOf_iff_prefix, List.reverse_append]
    exact List.prefix_append _ _
  rw [beforeEnd?, afterStart?, if_pos hstart, List.reverse_append, List.drop_left, Option.map_some,
    List.reverse_reverse]

theorem eq_append_of_beforeEnd? {final cs before : List Char}
    (h : beforeEnd? final cs = some before) : cs = before ++ final := by
  obtain ⟨rest, hrest, rfl⟩ := Option.map_eq_some_iff.1 h
  rw [afterStart?] at hrest
  split at hrest
  · next hprefix =>
    obtain ⟨others, hothers⟩ := List.isPrefixOf_iff_prefix.1 hprefix
    rw [← hothers, List.drop_left] at hrest
    cases hrest
    rw [← List.reverse_reverse cs, ← hothers, List.reverse_append, List.reverse_reverse]
  · cases hrest

end ActionBridge.Text
