import ActionBridge.Exchange.Request
import ActionBridge.Mapping.Resolution
import ActionBridge.Rule.Request
import ActionBridge.Url.Extend
import ActionBridge.Url.Parser

namespace ActionBridge.Mapping

def fieldText : Tree → String
  | .null => ""
  | t => t.plainText

def resolveField (es : Evaluators) (mode : EvalMode) (source : Tree) (location : String)
    (leaf : Tree) : Except MappingError (Option Tree) := do
  return (← resolveLeaf es mode source location leaf).filter (!·.isNull)

def resolveBase (es : Evaluators) (mode : EvalMode) (action : Tree) (url : String) :
    Except MappingError (String × Url) := do
  match ← resolveField es mode action "url" (.text url) with
  | none => .error (.missingField "url" url)
  | some value =>
    let base := fieldText value
    match Url.parse base with
    | .ok u => return (base, u)
    | .error e => Rule.refuse (.baseUnreadable base e)

def literalPieces (raw : String) : List String :=
  ((Text.splitAtChar '/' raw.toList).filter (!·.isEmpty)).map String.ofList

def fieldTexts : Tree → List String
  | .sequence items => items.map fieldText
  | t => [fieldText t]

def entryPieces (es : Evaluators) (mode : EvalMode) (action : Tree) (index : Nat)
    (entry : PathEntry) : Except MappingError (List String) :=
  if entry.selector.isLiteral then .ok (literalPieces entry.raw)
  else do
    let location := RequestRules.entryLocation index
    match (← resolve es mode action location (.text entry.raw) entry.selector).filter (!·.isNull) with
    | some value => return fieldTexts value
    | none => if entry.isOptional then return [] else .error (.missingField location entry.raw)

def pathPieces (es : Evaluators) (mode : EvalMode) (action : Tree) (index : Nat) :
    List PathEntry → Except MappingError (List String)
  | [] => .ok []
  | entry :: entries => do
    let first ← entryPieces es mode action index entry
    let others ← pathPieces es mode action (index + 1) entries
    return first ++ others

def withPieces (base : String) (u : Url) (pieces : List String) : Except MappingError Url :=
  if pieces.isEmpty then .ok u
  else
    match u.appendSegments? pieces with
    | some u => .ok u
    | none => Rule.refuse (.baseRootless base)

def presentTexts : Tree → List String
  | .sequence items => (items.filter (!·.isNull)).map fieldText
  | t => [fieldText t]

def queryPairs (es : Evaluators) (mode : EvalMode) (action : Tree) :
    List (String × Tree) → Except MappingError (List (String × String))
  | [] => .ok []
  | (name, template) :: entries => do
    let value ← resolveField es mode action ("query." ++ name) template
    let others ← queryPairs es mode action entries
    return (value.toList.flatMap presentTexts).map (name, ·) ++ others

def withPairs (u : Url) (pairs : List (String × String)) : Url :=
  if pairs.isEmpty then u else u.appendPairs pairs

/-- The text of a header: items are joined by commas, and a mapping has none. -/
def headerText : Tree → String
  | .mapping _ => ""
  | t => Text.joinTexts ", " (presentTexts t)

def headerTexts (es : Evaluators) (mode : EvalMode) (action : Tree) (headers : NameMap String) :
    List (String × Tree) → Except MappingError (NameMap String)
  | [] => .ok headers
  | (name, template) :: entries => do
    let value ← resolveField es mode action ("headers." ++ name) template
    let text := (value.map headerText).getD ""
    headerTexts es mode action (if text.isEmpty then headers else headers.insert name text) entries

def resolveBody (es : Evaluators) (mode : EvalMode) (action : Tree) (template : Tree) :
    Except MappingError (Option Tree) :=
  template.tryDeepMap fun location leaf =>
    resolveLeaf es mode action (Rule.locationText "body" location) leaf

def urlOf (es : Evaluators) (mode : EvalMode) (rules : RequestRules) (action : Tree) :
    Except MappingError Url := do
  let (base, u) ← resolveBase es mode action rules.url
  let pieces ← pathPieces es mode action 0 rules.path
  let u ← withPieces base u pieces
  let pairs ← queryPairs es mode action rules.query
  return withPairs u pairs

def mapRequest (es : Evaluators) (mode : EvalMode) (rules : RequestRules) (action : Tree) :
    Except MappingError Request := do
  let u ← urlOf es mode rules action
  let headers ← headerTexts es mode action .empty rules.headers
  let body ← match rules.body with
    | some template => resolveBody es mode action template
    | none => pure none
  return ⟨rules.method, u.toText, headers, body⟩

def requestOf (es : Evaluators) (mode : EvalMode) (rules action : Tree) :
    Except MappingError Request := do
  mapRequest es mode (← RequestRules.ofTree rules) action

end ActionBridge.Mapping
