import ActionBridge.Expression.Evaluation
import ActionBridge.Rule.Error
import ActionBridge.Text.Blank

namespace ActionBridge

inductive EvalMode where
  | eval
  | sandbox
deriving DecidableEq, Repr

namespace EvalMode

def toText : EvalMode → String
  | eval => "eval"
  | sandbox => "sandbox"

def ofText (s : String) : Except MappingError EvalMode :=
  let word := String.ofList ((Text.trim s.toList).map Char.toLower)
  if word = "eval" then .ok eval
  else if word = "sandbox" || word = "vm" then .ok sandbox
  else .error (.unknownEvaluator word)

def ofName? (s : String) : Option EvalMode :=
  if s = "eval" then some eval else if s = "sandbox" then some sandbox else none

def ofTree? : Tree → Option EvalMode
  | .text s => ofName? s
  | .mapping [(s, .null)] => ofName? s
  | _ => none

end EvalMode

abbrev Evaluator := String → Tree → Except EvaluationError (Option Tree)

structure Evaluators where
  eval : Option Evaluator
  sandbox : Option Evaluator

namespace Evaluators

def none : Evaluators := ⟨.none, .none⟩

def insert (es : Evaluators) (e : Evaluator) : EvalMode → Evaluators
  | .eval => { es with eval := some e }
  | .sandbox => { es with sandbox := some e }

def get? (es : Evaluators) : EvalMode → Option Evaluator
  | .eval => es.eval
  | .sandbox => es.sandbox

def modes (es : Evaluators) : List EvalMode :=
  [.eval, .sandbox].filter fun mode => (es.get? mode).isSome

def builtinFor (host : Expression.Host) : EvalMode → Evaluator
  | .eval => Expression.evaluate .unrestricted host
  | .sandbox => Expression.evaluate .sandboxed host

def builtin (host : Expression.Host) : Evaluators :=
  ⟨some (builtinFor host .eval), some (builtinFor host .sandbox)⟩

end Evaluators

end ActionBridge
