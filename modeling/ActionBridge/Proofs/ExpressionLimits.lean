import ActionBridge.Mapping.Evaluator
import ActionBridge.Proofs.ExpressionNesting
import ActionBridge.Proofs.Failures

namespace ActionBridge

namespace Expr

mutual

def value (host : Expression.Host) (bound : Tree) : Expr → Except EvaluationError (Option Tree)
  | literal t => .ok (some t)
  | selector none => .ok (some bound)
  | selector (some path) => .ok (bound.get? path)
  | plus terms => (values host bound terms).map Expression.joinTerms
  | call function arguments => do
    Expression.call true host function (← values host bound arguments)

def values (host : Expression.Host) (bound : Tree) :
    List Expr → Except EvaluationError (List (Option Tree))
  | [] => .ok []
  | e :: es => do
    return (← value host bound e) :: (← values host bound es)

end

mutual

def usesHost : Expr → Bool
  | call function arguments => Expression.isHostFunction function || anyUsesHost arguments
  | plus terms => anyUsesHost terms
  | _ => false

def anyUsesHost : List Expr → Bool
  | [] => false
  | e :: es => usesHost e || anyUsesHost es

end

section

variable {limits : Limits} {host : Expression.Host} {bound : Tree}

theorem takeStep_ok {steps n : Nat} :
    takeStep limits steps = .ok n ↔ n = steps + 1 ∧ Within limits.maxSteps n := by
  unfold takeStep Within
  cases limits.maxSteps with
  | none => simp [eq_comm]
  | some max =>
    by_cases h : max < steps + 1
    · simp [h]
      omega
    · simp [h, eq_comm]
      omega

theorem call_ok {access : Bool} {function : String} {arguments : List (Option Tree)}
    {v : Option Tree} : Expression.call access host function arguments = .ok v ↔
      Expression.call true host function arguments = .ok v ∧
        (access = true ∨ Expression.isHostFunction function = false) := by
  cases access with
  | true => simp
  | false =>
    cases h : Expression.isHostFunction function with
    | true => simp [Expression.call, h]
    | false => simp [Expression.call, h]

theorem leaf_ok {steps n : Nat} {u v : Option Tree} :
    (do
      let steps ← takeStep limits steps
      return (u, steps)) = Except.ok (v, n) ↔
      u = v ∧ n = steps + 1 ∧ Within limits.maxSteps n := by
  simp only [Except.bind_ok_iff, takeStep_ok]
  constructor
  · rintro ⟨m, hm, h⟩
    obtain ⟨rfl, rfl⟩ := Prod.mk.inj (Except.ok.inj h)
    exact ⟨rfl, hm⟩
  · rintro ⟨rfl, hn⟩
    exact ⟨n, hn, rfl⟩

mutual

theorem evalFrom_ok : ∀ {steps n : Nat} {v : Option Tree} (e : Expr),
    e.evalFrom limits host bound steps = .ok (v, n) ↔
      e.value host bound = .ok v ∧ n = steps + e.size ∧ Within limits.maxSteps n ∧
        (limits.hostAccess = true ∨ e.usesHost = false)
  | _, _, _, .literal t => by
    rw [evalFrom, leaf_ok]
    simp [value, size, usesHost]
  | _, _, _, .selector none => by
    rw [evalFrom, leaf_ok]
    simp [value, size, usesHost]
  | _, _, _, .selector (some path) => by
    rw [evalFrom, leaf_ok]
    simp [value, size, usesHost]
  | steps, n, v, .plus terms => by
    simp only [evalFrom, value, size, usesHost, Except.bind_ok_iff, Except.map_ok_iff, takeStep_ok]
    constructor
    · rintro ⟨_, ⟨rfl, hs⟩, ⟨vs, m⟩, hall, h⟩
      obtain ⟨rfl, rfl⟩ := Prod.mk.inj (Except.ok.inj h)
      obtain ⟨hv, hn, hw, ha⟩ := (evalAllFrom_ok terms hs).1 hall
      exact ⟨⟨vs, hv, rfl⟩, by omega, hw, ha⟩
    · rintro ⟨⟨vs, hv, rfl⟩, hn, hw, ha⟩
      have hs : Within limits.maxSteps (steps + 1) := hw.mono (by omega)
      exact ⟨steps + 1, ⟨rfl, hs⟩, (vs, n),
        (evalAllFrom_ok terms hs).2 ⟨hv, by omega, hw, ha⟩, rfl⟩
  | steps, n, v, .call function arguments => by
    simp only [evalFrom, value, size, usesHost, Except.bind_ok_iff, takeStep_ok, Bool.or_eq_false_iff,
      or_and_left]
    constructor
    · rintro ⟨_, ⟨rfl, hs⟩, ⟨vs, m⟩, hall, u, hc, h⟩
      obtain ⟨rfl, rfl⟩ := Prod.mk.inj (Except.ok.inj h)
      obtain ⟨hv, hn, hw, ha⟩ := (evalAllFrom_ok arguments hs).1 hall
      obtain ⟨hc, hf⟩ := call_ok.1 hc
      exact ⟨⟨vs, hv, hc⟩, by omega, hw, hf, ha⟩
    · rintro ⟨⟨vs, hv, hc⟩, hn, hw, hf, ha⟩
      have hs : Within limits.maxSteps (steps + 1) := hw.mono (by omega)
      exact ⟨steps + 1, ⟨rfl, hs⟩, (vs, n),
        (evalAllFrom_ok arguments hs).2 ⟨hv, by omega, hw, ha⟩, v,
        call_ok.2 ⟨hc, hf⟩, rfl⟩

theorem evalAllFrom_ok : ∀ {steps n : Nat} {vs : List (Option Tree)} (es : List Expr),
    Within limits.maxSteps steps → (evalAllFrom limits host bound steps es = .ok (vs, n) ↔
      values host bound es = .ok vs ∧ n = steps + sizeAll es ∧ Within limits.maxSteps n ∧
        (limits.hostAccess = true ∨ anyUsesHost es = false))
  | steps, n, vs, [], hs => by
    simp only [evalAllFrom, values, sizeAll, anyUsesHost, Except.ok.injEq, Prod.mk.injEq]
    constructor
    · rintro ⟨rfl, rfl⟩
      exact ⟨rfl, rfl, hs, .inr trivial⟩
    · rintro ⟨rfl, rfl, -, -⟩
      exact ⟨rfl, rfl⟩
  | steps, n, vs, e :: es, hs => by
    simp only [evalAllFrom, values, sizeAll, anyUsesHost, Except.bind_ok_iff, Bool.or_eq_false_iff,
      or_and_left]
    constructor
    · rintro ⟨⟨v, m⟩, he, ⟨ws, k⟩, hes, h⟩
      obtain ⟨rfl, rfl⟩ := Prod.mk.inj (Except.ok.inj h)
      obtain ⟨hv, hm, hw, ha⟩ := (evalFrom_ok e).1 he
      obtain ⟨hvs, hk, hw', ha'⟩ := (evalAllFrom_ok es hw).1 hes
      exact ⟨⟨v, hv, ws, hvs, rfl⟩, by omega, hw', ha, ha'⟩
    · rintro ⟨⟨v, hv, ws, hvs, h⟩, hn, hw, ha, ha'⟩
      obtain rfl := Except.ok.inj h
      have hm : Within limits.maxSteps (steps + e.size) := hw.mono (by omega)
      exact ⟨(v, steps + e.size), (evalFrom_ok e).2 ⟨hv, rfl, hm, ha⟩, (ws, n),
        (evalAllFrom_ok es hm).2 ⟨hvs, by omega, hw, ha'⟩, rfl⟩

end

theorem eval_ok {e : Expr} {v : Option Tree} : e.eval limits host bound = .ok v ↔
    e.value host bound = .ok v ∧ Within limits.maxSteps e.size ∧
      (limits.hostAccess = true ∨ e.usesHost = false) := by
  simp only [eval, Except.map_ok_iff, Prod.exists, evalFrom_ok, Nat.zero_add]
  constructor
  · rintro ⟨_, _, ⟨hv, rfl, hw, ha⟩, rfl⟩
    exact ⟨hv, hw, ha⟩
  · rintro ⟨hv, hw, ha⟩
    exact ⟨v, e.size, ⟨hv, rfl, hw, ha⟩, rfl⟩

end

theorem parse_of_tokens {limit : Option Nat} {text : String} {tokens : List Expression.Token}
    {e : Expr} (ht : (Expression.tokens text).toOption = some tokens)
    (he : Expression.ofTokens limit tokens = .ok e) : parse limit text = .ok e := by
  rw [parse, Except.eq_ok_of_toOption ht]
  exact he

end Expr

namespace Expression

theorem checkLength_ok {limit : Option Nat} {text : String} :
    checkLength limit text = .ok () ↔ Within limit text.utf8ByteSize := by
  cases limit with
  | none => simp [checkLength, within_none]
  | some max => simp [checkLength, Within]

theorem evaluate_ok {limits : Limits} {host : Host} {text : String} {bound : Tree}
    {v : Option Tree} : evaluate limits host text bound = .ok v ↔
      Within limits.maxLength text.utf8ByteSize ∧ Within limits.maxDepth (nesting text) ∧
        ∃ e, Expr.parse none text = .ok e ∧ e.value host bound = .ok v ∧
          Within limits.maxSteps e.size ∧ (limits.hostAccess = true ∨ e.usesHost = false) := by
  simp only [evaluate, Except.bind_ok_iff, Expr.eval_ok]
  constructor
  · rintro ⟨_, hl, e, hp, hv⟩
    obtain ⟨hp, hd⟩ := parse_within.1 hp
    exact ⟨checkLength_ok.1 hl, hd, e, hp, hv⟩
  · rintro ⟨hl, hd, e, hp, hv⟩
    exact ⟨(), checkLength_ok.2 hl, e, parse_within.2 ⟨hp, hd⟩, hv⟩

theorem evaluate_ok_unrestricted {limits : Limits} {host : Host} {text : String} {bound : Tree}
    {v : Option Tree} : evaluate limits host text bound = .ok v ↔
      Within limits.maxLength text.utf8ByteSize ∧
        ∃ e, Expr.parse none text = .ok e ∧ Within limits.maxDepth (nesting text) ∧
          Within limits.maxSteps e.size ∧ (limits.hostAccess = true ∨ e.usesHost = false) ∧
          evaluate .unrestricted host text bound = .ok v := by
  have hu : evaluate .unrestricted host text bound = .ok v ↔
      ∃ e, Expr.parse none text = .ok e ∧ e.value host bound = .ok v := by
    simp [evaluate_ok, Limits.unrestricted, within_none]
  rw [evaluate_ok]
  constructor
  · rintro ⟨hl, hd, e, hp, hv, hs, ha⟩
    exact ⟨hl, e, hp, hd, hs, ha, hu.2 ⟨e, hp, hv⟩⟩
  · rintro ⟨hl, e, hp, hd, hs, ha, h⟩
    obtain ⟨e', hp', hv⟩ := hu.1 h
    obtain rfl : e = e' := Except.ok.inj (hp.symm.trans hp')
    exact ⟨hl, hd, e, hp, hv, hs, ha⟩

theorem tokensFrom_of_lexeme {position : Nat} {c : Char} {cs : List Char} {token : Token}
    (hc : Text.isBlank c = false) (h : lexeme position c cs = .ok (token, [])) :
    tokensFrom position (c :: cs) = .ok [token] := by
  rw [tokensFrom, if_neg (by simp [hc])]
  split
  · next f hf => cases h.symm.trans hf
  · next token' rest hr =>
    obtain ⟨rfl, rfl⟩ := Prod.mk.inj (Except.ok.inj (h.symm.trans hr))
    rw [tokensFrom]

/-- A text has a value under limits exactly when it has that value without any, and its length, its
nesting, its size and its functions are all allowed. What has a value apart from the machine has the
same value on it. -/
theorem evaluate_within_limits (limits : Limits) (host : Host) (text : String) (bound : Tree)
    (v : Option Tree) :
    (evaluate limits host text bound = .ok v ↔
      Within limits.maxLength text.utf8ByteSize ∧
        ∃ e, Expr.parse none text = .ok e ∧ Within limits.maxDepth (nesting text) ∧
          Within limits.maxSteps e.size ∧ (limits.hostAccess = true ∨ e.usesHost = false) ∧
          evaluate .unrestricted host text bound = .ok v) ∧
      (Evaluators.builtinFor host .sandbox text bound = .ok v →
        Evaluators.builtinFor host .eval text bound = .ok v) := by
  refine ⟨evaluate_ok_unrestricted, fun h => ?_⟩
  obtain ⟨-, e, -, -, -, -, hv⟩ := evaluate_ok_unrestricted.1 h
  exact hv

/-- A group, a call and a sum, with just as many bytes, levels and nodes as are allowed. With one
node less the text has no value. -/
theorem evaluate_within_limits_sum :
    let host : Host := ⟨fun _ => none, ""⟩
    let text := "len($.items) + (1 + 2)"
    let bound := Tree.mapping [("items", .sequence [.null, .null])]
    evaluate ⟨false, some 22, some 2, some 6⟩ host text bound = .ok (some (.int 5)) ∧
      evaluate ⟨false, some 22, some 2, some 5⟩ host text bound ≠ .ok (some (.int 5)) ∧
      Evaluators.builtinFor host .sandbox text bound = .ok (some (.int 5)) ∧
      Evaluators.builtinFor host .eval text bound = .ok (some (.int 5)) := by
  intro host text bound
  have htokens : (tokens text).toOption = some [.word "len", .open_,
      .selector (some ⟨["items"], by decide⟩), .close, .plus, .open_, .number (.int 1), .plus,
      .number (.int 2), .close] := by decide +kernel
  have hsize : text.utf8ByteSize = 22 := rfl
  have hnesting : nesting text = 2 := by
    rw [nesting, Except.eq_ok_of_toOption htokens]
    rfl
  have hparse : Expr.parse none text = .ok (.plus [.call "len"
      [.selector (some ⟨["items"], by decide⟩)], .plus [.literal (.int 1), .literal (.int 2)]]) :=
    Expr.parse_of_tokens htokens rfl
  have hvalue : evaluate .unrestricted host text bound = .ok (some (.int 5)) := by
    rw [evaluate, Limits.unrestricted, hparse]
    rfl
  have hallowed (limits : Limits) (hlength : Within limits.maxLength 22)
      (hdepth : Within limits.maxDepth 2) (hsteps : Within limits.maxSteps 6) :
      evaluate limits host text bound = .ok (some (.int 5)) := by
    apply (evaluate_within_limits limits host text bound _).1.2
    rw [hsize, hnesting]
    exact ⟨hlength, _, hparse, hdepth, hsteps, .inr rfl, hvalue⟩
  have htight : evaluate ⟨false, some 22, some 2, some 6⟩ host text bound =
      .ok (some (.int 5)) := by
    apply hallowed <;> simp [Within]
  have hsandbox : Evaluators.builtinFor host .sandbox text bound = .ok (some (.int 5)) := by
    apply hallowed <;> simp [Within, Limits.sandboxed]
  refine ⟨htight, fun h => ?_, hsandbox, ?_⟩
  · obtain ⟨-, e, he, -, hsteps, -⟩ := (evaluate_within_limits _ host text bound _).1.1 h
    obtain rfl := Except.ok.inj (hparse.symm.trans he)
    exact absurd (hsteps 5 rfl) (by decide)
  · exact (evaluate_within_limits .sandboxed host text bound _).2 hsandbox

end Expression

end ActionBridge
