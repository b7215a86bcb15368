import ActionBridge.Exchange.Reply
import ActionBridge.Mapping.Resolution
import ActionBridge.Path.Write
import ActionBridge.Rule.Response
import ActionBridge.Tree.Merge
/-!
Replies folded into results. Each rule set is walked alongside the reply and writes a fragment of
its own; whole fragments are then merged into the target, one rule set after another.
-/

namespace ActionBridge.Mapping

/-- What a mapping leaves of its target, also when it fails half way. -/
structure Folded where
  target : Tree
  failure : Option MappingError

inductive Section where
  | headers
  | body
deriving DecidableEq, Repr

namespace Section

def toText : Section → String
  | headers => "headers"
  | body => "body"

end Section

def sameIgnoringCase (a b : String) : Bool :=
  a.toList.map Char.toLower = b.toList.map Char.toLower

/-- The value under a key. Among headers the case of a key does not count, though an exact match
comes first. -/
def lookupIn (part : Section) (key : String) (source : Entries) : Option Tree :=
  match part, source.lookup key with
  | .headers, none => (source.find? fun e => sameIgnoringCase e.1 key).map (·.2)
  | _, found => found

mutual

def eachMapping {ε σ : Type} (step : Entries → σ → Except ε σ) : Tree → σ → Except ε σ
  | .mapping entries, s => step entries s
  | .sequence items, s => eachMappingOf step items s
  | _, s => .ok s

def eachMappingOf {ε σ : Type} (step : Entries → σ → Except ε σ) : List Tree → σ → Except ε σ
  | [], s => .ok s
  | t :: ts, s => do
    let s ← eachMapping step t s
    eachMappingOf step ts s

end

def eachItem {ε σ : Type} (step : Tree → σ → Except ε σ) (source : Tree) (s : σ) : Except ε σ :=
  match source with
  | .sequence items => items.foldlM (fun s item => step item s) s
  | _ => .ok s

def absorbProduced (expression location : String) (produced : Option Tree) (fragment : Tree) :
    Except MappingError Tree :=
  match produced with
  | none => .ok fragment
  | some .null => .ok fragment
  | some (.mapping entries) => .ok ((Tree.mapping entries).merge (fun _ => false) fragment)
  | some t => .error (.evaluator expression location (.notMapping t))

def writeLeaf (es : Evaluators) (mode : EvalMode) (location : String) (leaf source fragment : Tree) :
    Except MappingError Tree := do
  match ← selectorOf leaf with
  | .path p =>
    let written := fragment.set p source
    match written.failure with
    | none => .ok written.content
    | some e => .error (.path e)
  | .expression text =>
    let produced ← evaluate es mode text location source
    absorbProduced text location produced fragment
  | .literal => .ok fragment

mutual

/-- A fragment after a template has been walked alongside a value. Where their shapes differ
nothing is written, but a mapping goes along every mapping of a sequence, and a sequence of
templates goes along every item. -/
def walk (es : Evaluators) (mode : EvalMode) (part : Section) (location : List String) :
    Tree → Tree → Tree → Except MappingError Tree
  | .mapping rules => eachMapping (walkEntries es mode part location rules)
  | .sequence rules => eachItem (walkItems es mode part location 0 rules)
  | leaf => writeLeaf es mode (Rule.locationText part.toText location) leaf

def walkEntries (es : Evaluators) (mode : EvalMode) (part : Section) (location : List String) :
    List (String × Tree) → Entries → Tree → Except MappingError Tree
  | [], _, fragment => .ok fragment
  | (key, rule) :: rules, source, fragment => do
    let fragment ← match lookupIn part key source with
      | none => pure fragment
      | some child => walk es mode part (location ++ [key]) rule child fragment
    walkEntries es mode part location rules source fragment

def walkItems (es : Evaluators) (mode : EvalMode) (part : Section) (location : List String)
    (index : Nat) : List Tree → Tree → Tree → Except MappingError Tree
  | [], _, fragment => .ok fragment
  | rule :: rules, item, fragment => do
    let fragment ← walk es mode part (location ++ [toString index]) rule item fragment
    walkItems es mode part location (index + 1) rules item fragment

end

def walkSection (es : Evaluators) (mode : EvalMode) (part : Section) (template : Option Tree)
    (source fragment : Tree) : Except MappingError Tree :=
  match template with
  | none => .ok fragment
  | some template => walk es mode part [] template source fragment

def fragmentOf (es : Evaluators) (mode : EvalMode) (reply : Reply) (rules : ResponseRules) :
    Except MappingError Tree := do
  let fragment ← walkSection es mode .headers rules.headers (.mapping reply.headers) (.mapping [])
  walkSection es mode .body rules.body reply.body fragment

def absorb (excluded : Option KeyPattern) (rules : ResponseRules) (fragment target : Tree) : Tree :=
  let merged := fragment.merge (isExcluded excluded) target
  match rules.defaults with
  | none => merged
  | some defaults => (Tree.mapping defaults).merge (isExcluded excluded) merged

def foldRuleSets (es : Evaluators) (mode : EvalMode) (excluded : Option KeyPattern) (reply : Reply) :
    List ResponseRules → Tree → Folded
  | [], target => ⟨target, none⟩
  | rules :: others, target =>
    match fragmentOf es mode reply rules with
    | .error e => ⟨target, some e⟩
    | .ok fragment =>
      foldRuleSets es mode excluded reply others (absorb excluded rules fragment target)

def stampId (id : Option String) (target : Entries) : Entries :=
  match id with
  | none => target
  | some id =>
    if Tree.shapeOf? (target.lookup "@id") = .absent then target.put "@id" (.text id) else target

def failedStatus : Tree := .text "FailedActionStatus"

def completedStatus : Tree := .text "CompletedActionStatus"

def errorOf (status : Nat) : Tree :=
  .mapping [("@type", .text "Thing"), ("name", .text ("HTTP " ++ toString status))]

def markFailed (status : Nat) (target : Entries) : Entries :=
  let marked := target.put "actionStatus" failedStatus
  if Tree.shapeOf? (marked.lookup "error") = .absent then marked.put "error" (errorOf status)
  else Tree.modifyKey ((errorOf status).merge fun _ => false) "error" marked

def foldInto (es : Evaluators) (options : MappingOptions) (reply : Reply)
    (ruleSets : List ResponseRules) (target : Entries) : Folded :=
  let stamped := stampId options.actionId target
  if reply.isSuccess then
    foldRuleSets es options.mode options.excluded reply ruleSets (.mapping stamped)
  else
    ⟨.mapping (markFailed (reply.status?.getD 0) stamped), none⟩

def mapReply (es : Evaluators) (options : MappingOptions) (reply : Reply)
    (ruleSets : List ResponseRules) : Tree → Folded
  | .null => foldInto es options reply ruleSets []
  | .mapping entries => foldInto es options reply ruleSets entries
  | t => ⟨t, some (.invalidTarget t)⟩

def Folded.toExcept (f : Folded) : Except MappingError Tree :=
  match f.failure with
  | none => .ok f.target
  | some e => .error e

def resultOf (es : Evaluators) (options : MappingOptions) (reply : Reply) (ruleSets : List Tree)
    (target : Tree) : Except MappingError Tree := do
  let checked ← ResponseRules.ofTrees ruleSets
  (mapReply es options reply checked target).toExcept

end ActionBridge.Mapping
