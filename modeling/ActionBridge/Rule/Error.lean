import ActionBridge.Expression.Error
import ActionBridge.Url.Host

namespace ActionBridge

inductive RuleFault where
  | requestNotMapping
  | responseNotMapping
  | methodNotText (value : Tree)
  | urlMissing
  | urlNotText (value : Tree)
  | selector (location : String) (cause : PathError)
  | pathNotSequence (value : Tree)
  | entryNotText (index : Nat) (value : Tree)
  | sectionNotMapping (name : String) (value : Tree)
  | entryNotLeaf (name entry : String)
  | defaultsNotMapping (value : Tree)
  | baseUnreadable (base : String) (cause : UrlError)
  | baseRootless (base : String)

def RuleFault.message : RuleFault → String
  | requestNotMapping => "request rule set must be a mapping"
  | responseNotMapping => "response rule set must be a mapping"
  | methodNotText value => "`method` must be a string, got " ++ value.toText
  | urlMissing => "`url` is required"
  | urlNotText value => "`url` must be a string, got " ++ value.toText
  | selector location cause => location ++ ": " ++ cause.message
  | pathNotSequence value => "`path` must be a sequence, got " ++ value.toText
  | entryNotText index value =>
    "`path[" ++ toString index ++ "]` must be a string, got " ++ value.toText
  | sectionNotMapping name value => "`" ++ name ++ "` must be a mapping, got " ++ value.toText
  | entryNotLeaf name entry => "`" ++ name ++ "." ++ entry ++ "` must be a leaf"
  | defaultsNotMapping value => "`defaults` must be a mapping, got " ++ value.toText
  | baseUnreadable base cause => "url `" ++ base ++ "`: " ++ cause.message
  | baseRootless base => "url `" ++ base ++ "` cannot take path segments"

inductive MappingError where
  | malformedRuleSet (fault : RuleFault)
  | missingField (location selector : String)
  | evaluator (expression location : String) (cause : EvaluationError)
  | unknownEvaluator (mode : String)
  | invalidTarget (target : Tree)
  | path (cause : PathError)

def MappingError.message : MappingError → String
  | malformedRuleSet fault => "Malformed rule set: " ++ fault.message
  | missingField location selector =>
    "Missing required field for " ++ location ++ ": " ++ selector
  | evaluator expression location cause =>
    "Evaluator failure at " ++ location ++ " in `" ++ expression ++ "`: " ++ cause.message
  | unknownEvaluator mode => "No evaluator registered for mode: " ++ mode
  | invalidTarget target => "Merge target must be a mapping, got " ++ target.toText
  | path cause => "Invalid path: " ++ cause.message

end ActionBridge
