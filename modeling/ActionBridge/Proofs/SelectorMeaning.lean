import ActionBridge.Mapping.Resolution
import ActionBridge.Proofs.ExpressionLimits
import ActionBridge.Proofs.ExpressionSpelling
import ActionBridge.Proofs.Pieces

namespace ActionBridge

def Selector.inBraces (expression : String) : String :=
  "\x7b\x7b " ++ expression ++ " \x7d\x7d"

theorem Selector.ofText_inBraces {s : String} (hne : s ≠ "") (h : Text.IsTrimmed s.toList) :
    Selector.ofText (Selector.inBraces s) = .ok (.expression s) := by
  have hs : s.toList ≠ [] := by simpa using hne
  have hchars : (Selector.inBraces s).toList =
      '\x7b' :: ('\x7b' :: ' ' :: (s.toList ++ [' ', '\x7d']) ++ ['\x7d']) := by
    simp [Selector.inBraces]
  have htrim : Text.trim (Selector.inBraces s).toList = (Selector.inBraces s).toList := by
    rw [hchars]
    exact Text.trim_of_ends (by decide) (by decide) _
  have hstart : Text.afterStart? ['\x7b', '\x7b'] (Selector.inBraces s).toList =
      some ([' '] ++ (s.toList ++ [' ']) ++ ['\x7d', '\x7d']) := by
    rw [hchars]
    simp [Text.afterStart?]
  have hinner : Text.trim ([' '] ++ (s.toList ++ [' '])) = s.toList :=
    Text.trim_surrounded Text.areBlank_space Text.areBlank_space hs h
  have hexpression : expressionText? (Selector.inBraces s).toList = some s.toList := by
    rw [expressionText?, htrim, hstart, Option.bind_some, Text.beforeEnd?_append, Option.map_some,
      hinner]
  have hpath : pathText? (Selector.inBraces s).toList = none := by
    rw [hchars]
    rfl
  simp only [ofText, hpath, hexpression, String.ofList_toList]

namespace Expression

def selectorText (steps : List (List Char)) : String :=
  String.ofList ('$' :: steps.flatten)

section

variable {steps : List (List Char)}

theorem isBlank_of_isKeyChar {c : Char} (h : isKeyChar c = true) : Text.isBlank c = false := by
  have hnone : ∀ n ∈ Text.codePoints Text.blankRanges, isKeyChar (Char.ofNat n) = false := by
    decide +kernel
  rw [Bool.eq_false_iff]
  intro hblank
  have hc := hnone _ (Text.toNat_mem_codePoints hblank)
  rw [Char.ofNat_toNat, h] at hc
  cases hc

theorem IsStep.last_not_blank {step : List Char} (h : IsStep step) :
    ∀ c ∈ step.getLast?, Text.isBlank c = false := by
  intro c hc
  cases h with
  | key hkey =>
    rcases List.mem_cons.1 (List.mem_of_getLast? hc) with rfl | hc
    · decide
    · exact isBlank_of_isKeyChar (hkey c hc)
  | bracket =>
    rw [← List.cons_append, List.getLast?_concat] at hc
    obtain rfl := Option.some.inj hc
    decide

theorem isTrimmed_selectorText (h : ∀ step ∈ steps, IsStep step) :
    Text.IsTrimmed (selectorText steps).toList := by
  rw [selectorText, String.toList_ofList]
  constructor
  · intro c hc
    obtain rfl := Option.some.inj hc
    decide
  · have hlast : ∀ cs : List Char, (∀ c ∈ cs.getLast?, Text.isBlank c = false) →
        ∀ c ∈ (cs ++ steps.flatten).getLast?, Text.isBlank c = false := by
      induction steps with
      | nil => simp
      | cons step steps ih =>
        intro cs hcs
        obtain ⟨hstep, hsteps⟩ := List.forall_mem_cons.1 h
        rw [List.flatten_cons, ← List.append_assoc]
        apply ih hsteps
        intro c hc
        rw [List.getLast?_append] at hc
        rcases Option.or_eq_some_iff.1 hc with hc | ⟨-, hc⟩
        · exact hstep.last_not_blank c hc
        · exact hcs c hc
    exact hlast ['$'] (Text.IsTrimmed.singleton (by decide)).last

theorem flatten_ne_nil (hne : steps ≠ []) (h : ∀ step ∈ steps, IsStep step) :
    steps.flatten ≠ [] := by
  obtain ⟨first, others, rfl⟩ := List.exists_cons_of_ne_nil hne
  cases (List.forall_mem_cons.1 h).1 <;> exact List.cons_ne_nil _ _

theorem tokens_selectorText (h : ∀ step ∈ steps, IsStep step) :
    tokens (selectorText steps) = (selectorToken steps.flatten).map ([·]) := by
  have hb : selectorBody? (steps.flatten ++ []) = some (steps.flatten, []) :=
    selectorBody?_steps h (by simp [EndsToken])
  have hlexeme := lexeme_selector hb 0
  rw [List.append_nil] at hlexeme
  rw [tokens, selectorText, String.toList_ofList]
  cases hs : selectorToken steps.flatten with
  | ok token =>
    rw [hs] at hlexeme
    exact tokensFrom_of_lexeme (by decide) hlexeme
  | error e =>
    rw [hs] at hlexeme
    rw [tokensFrom, if_neg (by decide)]
    split
    · next hf =>
      obtain rfl := Except.error.inj (hf.symm.trans hlexeme)
      rfl
    · next hf => cases hf.symm.trans hlexeme

theorem parse_selectorText (hne : steps ≠ []) (h : ∀ step ∈ steps, IsStep step)
    {limit : Option Nat} (hlimit : Within limit 1) :
    Expr.parse limit (selectorText steps) =
      match Path.parse (String.ofList steps.flatten) with
      | .ok p => .ok (.selector (some p))
      | .error e => .error (.invalidPath e) := by
  have hnone : steps.flatten.isEmpty = false := by
    rw [List.isEmpty_eq_false_iff]
    exact flatten_ne_nil hne h
  have hdepth : checkDepth limit (depthOf []) = .ok () := checkDepth_ok.2 hlimit
  rw [Expr.parse, tokens_selectorText h, selectorToken, hnone]
  cases Path.parse (String.ofList steps.flatten) with
  | error e => rfl
  | ok p =>
    simp only [Except.map, ofTokens, hdepth]
    rfl

theorem evaluate_selectorText (hne : steps ≠ []) (h : ∀ step ∈ steps, IsStep step)
    {limits : Limits} (hlength : Within limits.maxLength (selectorText steps).utf8ByteSize)
    (hdepth : Within limits.maxDepth 1) (hsteps : Within limits.maxSteps 1) (host : Host)
    (bound : Tree) :
    evaluate limits host (selectorText steps) bound =
      match Path.parse (String.ofList steps.flatten) with
      | .ok p => .ok (bound.get? p)
      | .error e => .error (.invalidPath e) := by
  have hchecked : checkLength limits.maxLength (selectorText steps) = .ok () :=
    checkLength_ok.2 hlength
  have hstep : Expr.takeStep limits 0 = .ok 1 := Expr.takeStep_ok.2 ⟨rfl, hsteps⟩
  rw [evaluate, hchecked, parse_selectorText hne h hdepth]
  cases Path.parse (String.ofList steps.flatten) with
  | error e => rfl
  | ok p =>
    simp only [Expr.eval, Expr.evalFrom, bind, Except.bind, hstep]
    rfl

end

end Expression

namespace Mapping

open Expression

section

variable {steps : List (List Char)}

theorem ofText_selectorText (hne : steps ≠ []) (h : ∀ step ∈ steps, IsStep step) :
    Selector.ofText (selectorText steps) =
      (Path.parse (String.ofList steps.flatten)).map .path := by
  have hpath : Selector.pathText? ('$' :: steps.flatten) = some steps.flatten := by
    obtain ⟨first, others, rfl⟩ := List.exists_cons_of_ne_nil hne
    cases (List.forall_mem_cons.1 h).1 <;> rfl
  rw [Selector.ofText, selectorText, String.toList_ofList, hpath]

theorem resolveLeaf_selectorText (hne : steps ≠ []) (h : ∀ step ∈ steps, IsStep step)
    (es : Evaluators) (mode : EvalMode) (source : Tree) (location : String) :
    resolveLeaf es mode source location (.text (selectorText steps)) =
      match Path.parse (String.ofList steps.flatten) with
      | .ok p => .ok (source.get? p)
      | .error e => .error (.path e) := by
  rw [resolveLeaf, selectorOf, Selector.ofLeaf, ofText_selectorText hne h]
  cases Path.parse (String.ofList steps.flatten) <;> rfl

section

variable (host : Host) {mode : EvalMode} (source : Tree) (location : String)

theorem builtinFor_selectorText (hne : steps ≠ []) (h : ∀ step ∈ steps, IsStep step)
    (hlength : mode = .sandbox → (selectorText steps).utf8ByteSize ≤ 1024) :
    Evaluators.builtinFor host mode (selectorText steps) source =
      match Path.parse (String.ofList steps.flatten) with
      | .ok p => .ok (source.get? p)
      | .error e => .error (.invalidPath e) := by
  cases mode with
  | eval =>
    exact evaluate_selectorText hne h (within_none _) (within_none _) (within_none _) host source
  | sandbox =>
    have hbytes : Within Limits.sandboxed.maxLength (selectorText steps).utf8ByteSize := by
      simpa [Within, Limits.sandboxed] using hlength rfl
    have hone : Within Limits.sandboxed.maxDepth 1 ∧ Within Limits.sandboxed.maxSteps 1 := by
      simp [Within, Limits.sandboxed]
    exact evaluate_selectorText hne h hbytes hone.1 hone.2 host source

theorem resolveLeaf_inBraces (hne : steps ≠ []) (h : ∀ step ∈ steps, IsStep step)
    (hlength : mode = .sandbox → (selectorText steps).utf8ByteSize ≤ 1024) :
    resolveLeaf (Evaluators.builtin host) mode source location
        (.text (Selector.inBraces (selectorText steps))) =
      match Path.parse (String.ofList steps.flatten) with
      | .ok p => .ok (source.get? p)
      | .error e => .error (.evaluator (selectorText steps) location (.invalidPath e)) := by
  have htext : selectorText steps ≠ "" := by simp [selectorText, String.ext_iff]
  have hselector : Selector.ofText (Selector.inBraces (selectorText steps)) =
      .ok (.expression (selectorText steps)) :=
    Selector.ofText_inBraces htext (isTrimmed_selectorText h)
  have hget : (Evaluators.builtin host).get? mode = some (Evaluators.builtinFor host mode) := by
    cases mode <;> rfl
  rw [resolveLeaf, selectorOf, Selector.ofLeaf, hselector]
  change Mapping.evaluate _ _ _ _ _ = _
  rw [Mapping.evaluate, hget]
  change (Evaluators.builtinFor host mode _ _).mapError _ = _
  rw [builtinFor_selectorText host source hne h hlength]
  cases Path.parse (String.ofList steps.flatten) <;> rfl

end

/-- A selector is refused as a leaf of rules exactly where it is refused as an expression, and
otherwise both stand for the same value, or for none. -/
theorem selector_means_same_in_expression (host : Host) (mode : EvalMode) (source : Tree)
    (location : String) (hne : steps ≠ []) (h : ∀ step ∈ steps, IsStep step)
    (hlength : mode = .sandbox → (selectorText steps).utf8ByteSize ≤ 1024) :
    let resolved (leaf : String) :=
      resolveLeaf (Evaluators.builtin host) mode source location (.text leaf)
    ((∃ e, Selector.ofText (selectorText steps) = .error e) ↔
        ∃ e, resolved (Selector.inBraces (selectorText steps)) = .error e) ∧
      ((∃ e, Selector.ofText (selectorText steps) = .error e) ∨
        ∃ value, resolved (selectorText steps) = .ok value ∧
          resolved (Selector.inBraces (selectorText steps)) = .ok value) := by
  dsimp only
  rw [ofText_selectorText hne h, resolveLeaf_selectorText hne h,
    resolveLeaf_inBraces host source location hne h hlength]
  cases Path.parse (String.ofList steps.flatten) with
  | error e => simp [Except.map]
  | ok p => simp [Except.map]

theorem selector_means_same_in_expression_brackets :
    let host : Host := ⟨fun _ => none, ""⟩
    let inside := " 'b \x7d\x7d + [\"c'".toList
    let source : Tree := .mapping [("a", .mapping [("b \x7d\x7d + [\"c", .bool true)])]
    let resolved (leaf : String) :=
      resolveLeaf (Evaluators.builtin host) .sandbox source "body" (.text leaf)
    let held := [".a".toList, '[' :: (inside ++ [']'])]
    let empty := [".".toList, '[' :: (" '.' ".toList ++ [']'])]
    (∀ step ∈ held, IsStep step) ∧ (∀ step ∈ empty, IsStep step) ∧
      selectorText held = "$.a[ 'b \x7d\x7d + [\"c']" ∧ selectorText empty = "$.[ '.' ]" ∧
      resolved (Selector.inBraces (selectorText held)) = .ok (some (.bool true)) ∧
      ∃ e, resolved (Selector.inBraces (selectorText empty)) = .error e := by
  intro host inside source resolved held empty
  have hheld : ∀ step ∈ held, IsStep step := by
    refine List.forall_mem_cons.2 ⟨.key ?_, List.forall_mem_singleton.2 (.bracket (by decide))⟩
    exact List.forall_mem_singleton.2 (by decide)
  have hempty : ∀ step ∈ empty, IsStep step := by
    refine List.forall_mem_cons.2 ⟨.key ?_, List.forall_mem_singleton.2 (.bracket (by decide))⟩
    exact List.forall_mem_nil _
  have hsmall : ∀ steps ∈ [held, empty], (selectorText steps).utf8ByteSize ≤ 1024 := by decide
  let p : Path := ⟨["a", "b \x7d\x7d + [\"c"], List.cons_ne_nil _ _⟩
  have hpath : Path.parse (String.ofList held.flatten) = .ok p := by
    refine Path.parse_eq_ok_iff.2 ⟨".a.b \x7d\x7d + [\"c".toList, ?_, by decide⟩
    rw [String.toList_ofList]
    exact .char (by decide : '.' ≠ '[') <| .char (by decide : 'a' ≠ '[') <|
      .bracket (by decide : ']' ∉ inside) .nil
  have hfound : Selector.ofText (selectorText held) = .ok (.path p) := by
    rw [ofText_selectorText (List.cons_ne_nil _ _) hheld, hpath]
    rfl
  have hdots : Path.HoldsNoKey (String.ofList empty.flatten).toList := by
    refine ⟨"...".toList, ?_, by simp⟩
    rw [String.toList_ofList]
    exact .char (by decide : '.' ≠ '[') (.bracket (by decide : ']' ∉ " '.' ".toList) .nil)
  have hread : ∃ e, Selector.ofText (selectorText empty) = .error e := by
    rw [ofText_selectorText (List.cons_ne_nil _ _) hempty,
      Path.parse_eq_error_iff.2 (.inr ⟨rfl, hdots⟩)]
    exact ⟨_, rfl⟩
  have hvalue : resolved (selectorText held) = .ok (some (.bool true)) := by
    simp only [resolved, resolveLeaf, selectorOf, Selector.ofLeaf, hfound]
    rfl
  obtain ⟨-, hsame⟩ := selector_means_same_in_expression host .sandbox source "body"
    (List.cons_ne_nil _ _) hheld fun _ => hsmall held (by simp)
  obtain ⟨hmalformed, -⟩ := selector_means_same_in_expression host .sandbox source "body"
    (List.cons_ne_nil _ _) hempty fun _ => hsmall empty (by simp)
  refine ⟨hheld, hempty, by decide, by decide, ?_, hmalformed.1 hread⟩
  obtain ⟨e, he⟩ | ⟨value, houtside, hinside⟩ := hsame
  · cases hfound.symm.trans he
  · obtain rfl := Except.ok.inj (hvalue.symm.trans houtside)
    exact hinside

end

end Mapping

end ActionBridge
