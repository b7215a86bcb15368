import ActionBridge.Mapping.Evaluator
import ActionBridge.Path.Access
import ActionBridge.Rule.Selector
import ActionBridge.Tree.KeyPattern

namespace ActionBridge

structure MappingOptions where
  mode : EvalMode
  excluded : Option KeyPattern
  actionId : Option String

namespace MappingOptions

def standard : MappingOptions := ⟨.sandbox, some .context, none⟩

end MappingOptions

namespace Mapping

def evaluate (es : Evaluators) (mode : EvalMode) (expression location : String) (bound : Tree) :
    Except MappingError (Option Tree) :=
  match es.get? mode with
  | none => .error (.unknownEvaluator mode.toText)
  | some evaluator => (evaluator expression bound).mapError (.evaluator expression location)

def resolve (es : Evaluators) (mode : EvalMode) (source : Tree) (location : String) (leaf : Tree) :
    Selector → Except MappingError (Option Tree)
  | .path p => .ok (source.get? p)
  | .expression text => evaluate es mode text location source
  | .literal => .ok (some leaf)

def selectorOf (leaf : Tree) : Except MappingError Selector :=
  (Selector.ofLeaf leaf).mapError .path

def resolveLeaf (es : Evaluators) (mode : EvalMode) (source : Tree) (location : String)
    (leaf : Tree) : Except MappingError (Option Tree) := do
  resolve es mode source location leaf (← selectorOf leaf)

end Mapping

end ActionBridge
