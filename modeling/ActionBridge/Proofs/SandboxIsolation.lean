import ActionBridge.Proofs.ReplyAgreement
import ActionBridge.Proofs.RequestAgreement

namespace ActionBridge

namespace Expression

theorem call_congr (host host' : Host) (name : String) (arguments : List (Option Tree)) :
    call false host name arguments = call false host' name arguments := by
  unfold call
  by_cases h : isHostFunction name = true
  · simp only [h, Bool.not_false, Bool.and_self, if_true]
  · have henv : name ≠ "env" := by
      rintro rfl
      exact h (by decide)
    have hnow : name ≠ "now" := by
      rintro rfl
      exact h (by decide)
    simp only [Bool.eq_false_iff.2 h, Bool.false_and, Bool.false_eq_true, if_false]
    split <;> first | rfl | contradiction

end Expression

namespace Expr

section

variable {limits : Limits} (host host' : Expression.Host) (bound : Tree)

mutual

theorem evalFrom_congr (h : limits.hostAccess = false) : ∀ (steps : Nat) (e : Expr),
    e.evalFrom limits host bound steps = e.evalFrom limits host' bound steps
  | _, .literal _ | _, .selector none | _, .selector (some _) => by simp only [evalFrom]
  | _, .plus terms => by simp only [evalFrom, evalAllFrom_congr h _ terms]
  | _, .call name arguments => by
    simp only [evalFrom, evalAllFrom_congr h _ arguments, h, Expression.call_congr host host']

theorem evalAllFrom_congr (h : limits.hostAccess = false) : ∀ (steps : Nat) (es : List Expr),
    evalAllFrom limits host bound steps es = evalAllFrom limits host' bound steps es
  | _, [] => by rw [evalAllFrom, evalAllFrom]
  | _, e :: es => by simp only [evalAllFrom, evalFrom_congr h _ e, evalAllFrom_congr h _ es]

end

end

end Expr

namespace Expression

theorem evaluate_congr {limits : Limits} (h : limits.hostAccess = false) (host host' : Host)
    (text : String) (bound : Tree) :
    evaluate limits host text bound = evaluate limits host' text bound := by
  simp only [evaluate, Expr.eval, Expr.evalFrom_congr host host' bound h]

end Expression

namespace Mapping

theorem SameEvaluation.sameValue {es es' : Evaluators} {mode : EvalMode}
    (h : SameEvaluation es es' mode) (a : Tree) (s : Selector) :
    SameValue es es' mode mode a a s := by
  intro location leaf
  cases s with
  | path p => rfl
  | expression text => exact h text location a
  | literal => rfl

section

variable (host host' : Expression.Host)

theorem sameEvaluation_sandbox :
    SameEvaluation (.builtin host) (.builtin host') .sandbox := by
  intro expression location bound
  have h : Expression.evaluate .sandboxed host expression bound =
      Expression.evaluate .sandboxed host' expression bound :=
    Expression.evaluate_congr rfl host host' expression bound
  simp only [evaluate, Evaluators.builtin, Evaluators.get?, Evaluators.builtinFor, h]

theorem sandbox_sees_no_host :
    (∀ rules action, requestOf (.builtin host) .sandbox rules action =
        requestOf (.builtin host') .sandbox rules action) ∧
      ∀ (options : MappingOptions) reply ruleSets target,
        resultOf (.builtin host) { options with mode := .sandbox } reply ruleSets target =
          resultOf (.builtin host') { options with mode := .sandbox } reply ruleSets target := by
  constructor
  · intro rules action
    have hmapped (checked : RequestRules) : mapRequest (.builtin host) .sandbox checked action =
        mapRequest (.builtin host') .sandbox checked action :=
      mapRequest_congr fun s _ => (sameEvaluation_sandbox host host').sameValue action s
    simp only [requestOf, hmapped]
  · intro options reply ruleSets target
    have hmapped (checked : List ResponseRules) :
        mapReply (.builtin host) { options with mode := .sandbox } reply checked target =
          mapReply (.builtin host') { options with mode := .sandbox } reply checked target :=
      mapReply_congr (sameEvaluation_sandbox host host') reply checked target
    simp only [resultOf, hmapped]

end

end Mapping

end ActionBridge
