import ActionBridge.Rule.Basic

namespace ActionBridge

structure PathEntry where
  raw : String
  selector : Selector
  isOptional : Bool
deriving Repr

structure RequestRules where
  method : String
  url : String
  path : List PathEntry
  query : List (String × Tree)
  headers : List (String × Tree)
  body : Option Tree
deriving Repr

namespace RequestRules

open Rule

def methodText (s : String) : String :=
  String.ofList ((Text.trim s.toList).map Char.toUpper)

def readMethod (entries : Entries) : Except MappingError String :=
  match present "method" entries with
  | none => .ok "GET"
  | some (.text s) =>
    if (Text.trim s.toList).isEmpty then refuse (.methodNotText (.text s)) else .ok (methodText s)
  | some t => refuse (.methodNotText t)

def readUrl (entries : Entries) : Except MappingError String :=
  match entries.lookup "url" with
  | some (.text url) => (selectorOf url "url").map fun _ => url
  | some t => refuse (.urlNotText t)
  | none => refuse .urlMissing

def entryLocation (index : Nat) : String :=
  "path[" ++ toString index ++ "]"

/-- A question mark at the end makes a selector or an expression optional; a literal keeps it. -/
def readEntry (index : Nat) : Tree → Except MappingError PathEntry
  | .text raw => do
    let whole : Except MappingError PathEntry :=
      (selectorOf raw (entryLocation index)).map fun s => ⟨raw, s, false⟩
    match Text.beforeEnd? ['?'] raw.toList with
    | none => whole
    | some cs =>
      let stripped := String.ofList cs
      let s ← selectorOf stripped (entryLocation index)
      if s.isLiteral then whole else return ⟨stripped, s, true⟩
  | t => refuse (.entryNotText index t)

def readEntries (index : Nat) : List Tree → Except MappingError (List PathEntry)
  | [] => .ok []
  | t :: ts => do
    let entry ← readEntry index t
    let entries ← readEntries (index + 1) ts
    return entry :: entries

def readPath (entries : Entries) : Except MappingError (List PathEntry) :=
  match present "path" entries with
  | none => .ok []
  | some (.sequence ts) => readEntries 0 ts
  | some t => refuse (.pathNotSequence t)

/-- The entries of a section that does not nest: mappings are refused, and sequences are checked
leaf by leaf. -/
def checkSection (name : String) : List (String × Tree) → Except MappingError Unit
  | [] => .ok ()
  | (entry, .mapping _) :: _ => refuse (.entryNotLeaf name entry)
  | (entry, template) :: entries => do
    checkTemplate (name ++ "." ++ entry) template
    checkSection name entries

def readSection (name : String) (entries : Entries) :
    Except MappingError (List (String × Tree)) :=
  match present name entries with
  | none => .ok []
  | some (.mapping es) => (checkSection name es).map fun _ => es
  | some t => refuse (.sectionNotMapping name t)

def readBody (entries : Entries) : Except MappingError (Option Tree) :=
  match entries.lookup "body" with
  | none => .ok none
  | some body => (checkTemplate "body" body).map fun _ => some body

def ofTree : Tree → Except MappingError RequestRules
  | .mapping entries => do
    let method ← readMethod entries
    let url ← readUrl entries
    let path ← readPath entries
    let query ← readSection "query" entries
    let headers ← readSection "headers" entries
    let body ← readBody entries
    return ⟨method, url, path, query, headers, body⟩
  | _ => refuse .requestNotMapping

end RequestRules

end ActionBridge
