import ActionBridge.Proofs.ExpressionParts

namespace ActionBridge

namespace Text

variable {s : Char} {separator : List Char}

theorem splitAtText_ne_nil (s : Char) (separator cs : List Char) :
    splitAtText s separator cs ≠ [] := by
  cases cs with
  | nil =>
    rw [splitAtText]
    exact List.cons_ne_nil _ _
  | cons c cs =>
    rw [splitAtText]
    split
    · exact List.cons_ne_nil _ _
    · cases splitAtText s separator cs <;> exact List.cons_ne_nil _ _

theorem joinWith_cons (separator piece : List Char) {pieces : List (List Char)} (h : pieces ≠ []) :
    joinWith separator (piece :: pieces) = piece ++ separator ++ joinWith separator pieces := by
  cases pieces with
  | nil => exact absurd rfl h
  | cons next pieces => rfl

theorem joinWith_extendFirst (separator : List Char) (c : Char) {pieces : List (List Char)}
    (h : pieces ≠ []) :
    joinWith separator (extendFirst c pieces) = c :: joinWith separator pieces := by
  obtain ⟨first, others, rfl⟩ := List.exists_cons_of_ne_nil h
  cases others with
  | nil => rfl
  | cons next others =>
    rw [extendFirst, joinWith_cons _ _ (List.cons_ne_nil _ _),
      joinWith_cons _ _ (List.cons_ne_nil _ _)]
    rfl

theorem joinWith_splitAtText (s : Char) (separator cs : List Char) :
    joinWith (s :: separator) (splitAtText s separator cs) = cs := by
  fun_induction splitAtText s separator cs with
  | case1 => rfl
  | case2 c cs hp ih =>
    -- the separator is cut off and put back
    obtain ⟨rest, hrest⟩ := List.isPrefixOf_iff_prefix.1 hp
    rw [List.cons_append] at hrest
    obtain ⟨rfl, rfl⟩ := List.cons.inj hrest
    rw [List.drop_left] at ih ⊢
    rw [joinWith_cons _ _ (splitAtText_ne_nil _ _ _), ih]
    rfl
  | case3 c cs _ ih => rw [joinWith_extendFirst _ _ (splitAtText_ne_nil _ _ _), ih]

theorem prefix_of_splitAtText {cs first : List Char} {others : List (List Char)}
    (h : splitAtText s separator cs = first :: others) : first <+: cs := by
  have hjoin := joinWith_splitAtText s separator cs
  rw [h] at hjoin
  rw [← hjoin]
  cases others with
  | nil => exact List.prefix_rfl
  | cons next others =>
    rw [joinWith_cons _ _ (List.cons_ne_nil _ _), List.append_assoc]
    exact List.prefix_append _ _

theorem not_infix_of_mem_splitAtText {cs piece : List Char}
    (h : piece ∈ splitAtText s separator cs) : ¬s :: separator <:+: piece := by
  fun_induction splitAtText s separator cs generalizing piece with
  | case1 =>
    rw [List.mem_singleton.1 h]
    simp
  | case2 c cs _ ih =>
    rcases List.mem_cons.1 h with rfl | h
    · simp
    · exact ih h
  | case3 c cs hp ih =>
    obtain ⟨first, others, hpieces⟩ :=
      List.exists_cons_of_ne_nil (splitAtText_ne_nil s separator cs)
    rw [hpieces] at h ih
    rcases List.mem_cons.1 h with rfl | h
    · -- an occurrence at the very start would have been cut off
      intro hinfix
      rcases List.infix_cons_iff.1 hinfix with hstart | hlater
      · have hfirst : c :: first <+: c :: cs :=
          (List.prefix_cons_inj c).2 (prefix_of_splitAtText hpieces)
        exact hp (List.isPrefixOf_iff_prefix.2 (hstart.trans hfirst))
      · exact ih List.mem_cons_self hlater
    · exact ih (List.mem_cons_of_mem _ h)

end Text

namespace Expression

theorem split_of_ne_empty (text : String) {separator : String} (h : separator ≠ "") :
    ∃ pieces : List String, split text separator = .ok (some (.sequence (pieces.map .text))) ∧
      Text.joinTexts separator pieces = text ∧
      ∀ piece ∈ pieces, ¬separator.toList <:+: piece.toList := by
  obtain ⟨s, ss, hs⟩ := List.exists_cons_of_ne_nil (mt String.toList_eq_nil_iff.1 h)
  have hback : ((Text.splitAtText s ss text.toList).map String.ofList).map String.toList =
      Text.splitAtText s ss text.toList := by
    rw [List.map_map]
    exact (List.map_congr_left fun cs _ => String.toList_ofList).trans (List.map_id _)
  refine ⟨(Text.splitAtText s ss text.toList).map String.ofList, ?_, ?_, ?_⟩
  · rw [split, hs, List.map_map]
    rfl
  · rw [Text.joinTexts, hback, hs, Text.joinWith_splitAtText, String.ofList_toList]
  · intro piece hpiece
    obtain ⟨cs, hcs, rfl⟩ := List.mem_map.1 hpiece
    rw [hs, String.toList_ofList]
    exact Text.not_infix_of_mem_splitAtText hcs

theorem join_texts (pieces : List String) (separator : Tree) :
    join (some (.sequence (pieces.map .text))) (some separator) =
      some (.text (Text.joinTexts separator.plainText pieces)) := by
  have hplain : (pieces.map Tree.text).map Tree.plainText = pieces := by
    rw [List.map_map]
    exact List.map_id pieces
  rw [join]
  simp only [Option.map_some, Option.getD_some, hplain]

def splitAndJoin (text separator : Expr) : Expr :=
  .call "join" [.call "split" [text, separator], separator]

section

variable {limits : Limits} {host : Host} {bound : Tree}

/-- Joining undoes splitting: where the limits admit it, the pieces of a text between the occurrences
of a separator, none of which holds the separator, make up the text again. -/
theorem evaluate_splitAndJoin {whole : String} {text separator : Expr} {t u : Tree}
    (h : Admits limits whole (splitAndJoin text separator))
    (ht : text.eval limits host bound = .ok (some t))
    (hu : separator.eval limits host bound = .ok (some u)) (hne : u.plainText ≠ "") :
    evaluate limits host whole bound = .ok (some (.text t.plainText)) ∧
      ∃ pieces : List String,
        (Expr.call "split" [text, separator]).eval limits host bound =
          .ok (some (.sequence (pieces.map .text))) ∧
        ∀ piece ∈ pieces, ¬u.plainText.toList <:+: piece.toList := by
  obtain ⟨pieces, hsplit, hjoin, hpieces⟩ := split_of_ne_empty t.plainText hne
  have hsteps : Within limits.maxSteps (Expr.call "split" [text, separator]).size := by
    refine h.steps.mono ?_
    simp only [splitAndJoin, Expr.size, Expr.sizeAll]
    omega
  have heval : (Expr.call "split" [text, separator]).eval limits host bound =
      .ok (some (.sequence (pieces.map .text))) :=
    Expr.eval_call (.cons ht (.cons hu .nil)) hsplit hsteps
  refine ⟨?_, pieces, heval, hpieces⟩
  rw [h.evaluate_eq]
  refine Expr.eval_call (.cons heval (.cons hu .nil)) ?_ h.steps
  change Except.ok (join (some (.sequence (pieces.map .text))) (some u)) = _
  rw [join_texts, hjoin]

theorem evaluate_splitAndJoin_digits :
    let host : Host := ⟨fun _ => none, ""⟩
    let text := Expr.literal (.int 1112011)
    let separator := Expr.literal (.int 11)
    let whole := "join(split(1112011, 11), 11)"
    Admits .sandboxed whole (splitAndJoin text separator) ∧
      evaluate .sandboxed host whole .null = .ok (some (.text "1112011")) ∧
      ∃ pieces : List String,
        (Expr.call "split" [text, separator]).eval .sandboxed host .null =
          .ok (some (.sequence (pieces.map .text))) ∧
        ∀ piece ∈ pieces, ¬['1', '1'] <:+: piece.toList := by
  intro host text separator whole
  have hadmits : Admits .sandboxed whole (splitAndJoin text separator) := by
    have htokens : (tokens whole).toOption = some [.word "join", .open_, .word "split", .open_,
        .number (.int 1112011), .comma, .number (.int 11), .close, .comma, .number (.int 11),
        .close] := by decide +kernel
    refine ⟨checkLength_ok.1 rfl, Expr.parse_of_tokens htokens rfl, ?_⟩
    intro max hmax
    cases hmax
    decide
  have htext : (Tree.int 1112011).plainText = "1112011" := by decide
  have hseparator : (Tree.int 11).plainText.toList = ['1', '1'] := by decide
  have ht : text.eval .sandboxed host .null = .ok (some (.int 1112011)) := rfl
  have hu : separator.eval .sandboxed host .null = .ok (some (.int 11)) := rfl
  have h := evaluate_splitAndJoin hadmits ht hu (by decide)
  rw [htext, hseparator] at h
  exact ⟨hadmits, h⟩

end

end Expression

end ActionBridge
