import ActionBridge.Gateway.Error
import ActionBridge.NameMap
import ActionBridge.Rule.Request
import ActionBridge.Rule.Response

namespace ActionBridge

structure ActionRules where
  name : String
  request : RequestRules
  response : List ResponseRules

namespace ActionRules

def ruleSets : Option Tree → List Tree
  | none => []
  | some .null => []
  | some (.sequence sets) => sets
  | some set => [set]

def ofTree (name : String) (document : Tree) : Except GatewayError ActionRules :=
  match document.lookup? "request" with
  | none => .error (.requestMissing name)
  | some request => do
    let request ← (RequestRules.ofTree request).mapError .mapping
    let response ← (ResponseRules.ofTrees (ruleSets (document.lookup? "response"))).mapError .mapping
    return ⟨name, request, response⟩

def summary (rules : ActionRules) : Tree :=
  .mapping
    [("name", .text rules.name), ("method", .text rules.request.method),
      ("url", .text rules.request.url), ("response_rule_sets", .int rules.response.length)]

end ActionRules

structure Registry where
  actions : NameMap ActionRules

namespace Registry

def empty : Registry := ⟨.empty⟩

/-- What an insertion leaves of a registry, also when it is refused. -/
structure Inserted where
  registry : Registry
  failure : Option GatewayError

def Inserted.toExcept (i : Inserted) : Except GatewayError Registry :=
  match i.failure with
  | none => .ok i.registry
  | some e => .error e

def tryInsert (r : Registry) (name : String) (document : Tree) : Inserted :=
  match ActionRules.ofTree name document with
  | .ok rules => ⟨⟨r.actions.insert name rules⟩, none⟩
  | .error e => ⟨r, some e⟩

def insert (r : Registry) (name : String) (document : Tree) : Except GatewayError Registry :=
  (r.tryInsert name document).toExcept

def get (r : Registry) (name : String) : Except GatewayError ActionRules :=
  match r.actions.get? name with
  | some rules => .ok rules
  | none => .error (.actionNotFound name)

def names (r : Registry) : List String :=
  r.actions.names

def list (r : Registry) : List ActionRules :=
  r.actions.values

def size (r : Registry) : Nat :=
  r.actions.size

end Registry

end ActionBridge
