import ActionBridge.Rule.Error

namespace ActionBridge

inductive GatewayError where
  | mapping (cause : MappingError)
  | actionNotFound (name : String)
  | actionNotMapping
  | badMethod (method : String)
  | dispatch (message : String)
  | requestMissing (name : String)
  | fileMalformed (file : String)
  | fileRefused (file : String) (cause : GatewayError)
  | unreadable (message : String)

namespace GatewayError

inductive Kind where
  | mapping
  | actionNotFound
  | invalidParams
  | dispatch
  | config
  | io
deriving DecidableEq, Repr

def Kind.heading : Kind → String
  | mapping => "Mapping error"
  | actionNotFound => "Action not found"
  | invalidParams => "Invalid params"
  | dispatch => "Dispatch error"
  | config => "Config error"
  | io => "IO error"

def kind : GatewayError → Kind
  | mapping _ => .mapping
  | actionNotFound _ => .actionNotFound
  | actionNotMapping => .invalidParams
  | badMethod _ => .invalidParams
  | dispatch _ => .dispatch
  | requestMissing _ => .config
  | fileMalformed _ => .config
  | fileRefused _ _ => .config
  | unreadable _ => .io

def detail : GatewayError → String
  | mapping cause => cause.message
  | actionNotFound name => name
  | actionNotMapping => "action must be a JSON object"
  | badMethod method => "bad method `" ++ method ++ "`"
  | dispatch message => message
  | requestMissing name => name ++ ": `request` is required"
  | fileMalformed file => file ++ ": malformed JSON"
  | fileRefused file cause => file ++ ": " ++ cause.kind.heading ++ ": " ++ cause.detail
  | unreadable message => message

def message (e : GatewayError) : String :=
  e.kind.heading ++ ": " ++ e.detail

def mappingCode : MappingError → String
  | .malformedRuleSet _ => "E_MALFORMED_RULES"
  | .path _ => "E_MALFORMED_RULES"
  | .missingField _ _ => "E_MISSING_FIELD"
  | .evaluator _ _ _ => "E_EVALUATOR_FAILED"
  | .unknownEvaluator _ => "E_UNKNOWN_EVALUATOR"
  | .invalidTarget _ => "E_INVALID_PARAMS"

def code (e : GatewayError) : String :=
  match e, e.kind with
  | mapping cause, _ => mappingCode cause
  | _, .actionNotFound => "E_ACTION_NOT_FOUND"
  | _, .invalidParams => "E_INVALID_PARAMS"
  | _, .dispatch => "E_DISPATCH_FAILED"
  | _, _ => "E_INTERNAL"

def mappingStatus : MappingError → Nat
  | .missingField _ _ => 422
  | .evaluator _ _ _ => 422
  | .invalidTarget _ => 400
  | _ => 500

def status (e : GatewayError) : Nat :=
  match e, e.kind with
  | mapping cause, _ => mappingStatus cause
  | _, .actionNotFound => 404
  | _, .invalidParams => 400
  | _, .dispatch => 502
  | _, _ => 500

def toTree (e : GatewayError) : Tree :=
  .mapping [("error", .mapping [("code", .text e.code), ("message", .text e.message)])]

end GatewayError

end ActionBridge
