import ActionBridge.Gateway.Registry
import ActionBridge.Mapping.Reply
import ActionBridge.Mapping.Request
/-!
Actions run by a gateway: mapped to a request, sent, and completed by the reply. The two mappings
can be run on their own, and do then what they do within a run.
-/

namespace ActionBridge

structure Gateway where
  registry : Registry
  evaluators : Evaluators
  mode : EvalMode

namespace Gateway

def actionId? (action : Tree) : Option String :=
  match action.lookup? "@id", action.lookup? "identifier" with
  | some (.text id), _ => some id
  | _, some (.text id) => some id
  | _, _ => none

def optionsFor (g : Gateway) (action : Tree) : MappingOptions :=
  ⟨g.mode, some .context, actionId? action⟩

def mapRequest (g : Gateway) (name : String) (action : Tree) : Except GatewayError Request := do
  let rules ← g.registry.get name
  let options := g.optionsFor action
  (Mapping.mapRequest g.evaluators options.mode rules.request action).mapError .mapping

def mapReply (g : Gateway) (name : String) (reply : Reply) (target : Tree) :
    Except GatewayError Tree := do
  let rules ← g.registry.get name
  (Mapping.mapReply g.evaluators (g.optionsFor target) reply rules.response target).toExcept.mapError
    .mapping

def stamp (reply : Reply) (started ended : String) : Tree → Tree
  | .mapping entries =>
    let marked : Entries :=
      if reply.isSuccess then Entries.put "actionStatus" Mapping.completedStatus entries
      else entries
    .mapping ((marked.put "startTime" (.text started)).put "endTime" (.text ended))
  | t => t

/-- Runs an action. A reply that reports a failure is no error: the result says so. -/
def invoke {m : Type → Type} [Monad m] (g : Gateway)
    (send : Request → m (Except GatewayError Reply)) (clock : m String) (name : String)
    (action : Tree) : m (Except GatewayError Tree) :=
  match action with
  | .mapping _ => do
    let started ← clock
    match g.registry.get name with
    | .error e => return .error e
    | .ok rules =>
      let options := g.optionsFor action
      match Mapping.mapRequest g.evaluators options.mode rules.request action with
      | .error e => return .error (.mapping e)
      | .ok request =>
        match ← send request with
        | .error e => return .error e
        | .ok reply =>
          let folded := Mapping.mapReply g.evaluators options reply rules.response action
          match folded.failure with
          | some e => return .error (.mapping e)
          | none =>
            let ended ← clock
            return .ok (stamp reply started ended folded.target)
  | _ => return .error .actionNotMapping

end Gateway

end ActionBridge
