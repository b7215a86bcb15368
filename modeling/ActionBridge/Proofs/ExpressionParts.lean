import ActionBridge.Proofs.ExpressionLimits
import Mathlib.Data.List.Forall2

namespace ActionBridge

namespace Expr

section

variable {limits : Limits} {host : Expression.Host} {bound : Tree}

theorem values_ok_iff {es : List Expr} {vs : List (Option Tree)} :
    values host bound es = .ok vs ↔ List.Forall₂ (fun e v => e.value host bound = .ok v) es vs := by
  induction es generalizing vs with
  | nil =>
    rw [values, List.forall₂_nil_left_iff, Except.ok.injEq]
    exact eq_comm
  | cons e es ih =>
    simp only [values, Except.bind_ok_iff, List.forall₂_cons_left_iff]
    constructor
    · rintro ⟨v, hv, ws, hws, h⟩
      exact ⟨v, ws, hv, ih.1 hws, (Except.ok.inj h).symm⟩
    · rintro ⟨v, ws, hv, hws, rfl⟩
      exact ⟨v, hv, ws, ih.2 hws, rfl⟩

theorem sizeAll_of_perm {es es' : List Expr} (h : es.Perm es') : sizeAll es = sizeAll es' := by
  induction h with
  | nil => rfl
  | cons e _ ih => rw [sizeAll, sizeAll, ih]
  | swap e e' es =>
    simp only [sizeAll]
    omega
  | trans _ _ ih ih' => exact ih.trans ih'

theorem size_plus_of_perm {terms order : List Expr} (h : order.Perm terms) :
    (plus order).size = (plus terms).size := by
  rw [size, size, sizeAll_of_perm h]

theorem anyUsesHost_eq_false_iff {es : List Expr} :
    anyUsesHost es = false ↔ ∀ e ∈ es, e.usesHost = false := by
  induction es with
  | nil => simp [anyUsesHost]
  | cons e es ih => simp [anyUsesHost, ih]

theorem values_of_eval {es : List Expr} {vs : List (Option Tree)}
    (h : List.Forall₂ (fun e v => e.eval limits host bound = .ok v) es vs) :
    values host bound es = .ok vs ∧ (limits.hostAccess = true ∨ anyUsesHost es = false) := by
  have hparts : List.Forall₂ (fun e v => (limits.hostAccess = true ∨ e.usesHost = false) ∧
      e.value host bound = .ok v) es vs := by
    refine h.imp fun e v he => ?_
    obtain ⟨hv, -, ha⟩ := eval_ok.1 he
    exact ⟨ha, hv⟩
  obtain ⟨ha, hvs⟩ := (List.forall₂_and_left es vs).1 hparts
  refine ⟨values_ok_iff.2 hvs, ?_⟩
  by_cases hall : limits.hostAccess = true
  · exact .inl hall
  · exact .inr (anyUsesHost_eq_false_iff.2 fun e he => (ha e he).resolve_left hall)

theorem eval_plus {terms : List Expr} {vs : List (Option Tree)}
    (h : List.Forall₂ (fun e v => e.eval limits host bound = .ok v) terms vs)
    (hs : Within limits.maxSteps (plus terms).size) :
    (plus terms).eval limits host bound = .ok (Expression.joinTerms vs) := by
  obtain ⟨hv, ha⟩ := values_of_eval h
  refine eval_ok.2 ⟨?_, hs, ?_⟩
  · rw [value, hv]
    rfl
  · rwa [usesHost]

theorem eval_call {function : String} {arguments : List Expr} {vs : List (Option Tree)}
    {v : Option Tree} (h : List.Forall₂ (fun e v => e.eval limits host bound = .ok v) arguments vs)
    (hc : Expression.call limits.hostAccess host function vs = .ok v)
    (hs : Within limits.maxSteps (call function arguments).size) :
    (call function arguments).eval limits host bound = .ok v := by
  obtain ⟨hv, ha⟩ := values_of_eval h
  obtain ⟨hc, hf⟩ := call_ok.1 hc
  refine eval_ok.2 ⟨?_, hs, ?_⟩
  · rw [value, hv]
    exact hc
  · rw [usesHost, Bool.or_eq_false_iff]
    exact or_and_left.2 ⟨hf, ha⟩

end

end Expr

namespace Expression

structure Admits (limits : Limits) (text : String) (e : Expr) : Prop where
  length : Within limits.maxLength text.utf8ByteSize
  spelled : Expr.parse limits.maxDepth text = .ok e
  steps : Within limits.maxSteps e.size

theorem Admits.evaluate_eq {limits : Limits} {host : Host} {bound : Tree} {text : String}
    {e : Expr} (h : Admits limits text e) :
    evaluate limits host text bound = e.eval limits host bound := by
  rw [evaluate, checkLength_ok.2 h.length, h.spelled]
  rfl

end Expression

end ActionBridge
