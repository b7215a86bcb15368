import ActionBridge.Rule.Basic

namespace ActionBridge

structure ResponseRules where
  headers : Option Tree
  body : Option Tree
  defaults : Option Entries
deriving Repr

namespace ResponseRules

open Rule

def readTemplate (name : String) (entries : Entries) : Except MappingError (Option Tree) :=
  match entries.lookup name with
  | none => .ok none
  | some template => (checkTemplate name template).map fun _ => some template

def readDefaults (entries : Entries) : Except MappingError (Option Entries) :=
  match present "defaults" entries with
  | none => .ok none
  | some (.mapping defaults) => .ok (some defaults)
  | some t => refuse (.defaultsNotMapping t)

def ofTree : Tree → Except MappingError ResponseRules
  | .mapping entries => do
    let headers ← readTemplate "headers" entries
    let body ← readTemplate "body" entries
    let defaults ← readDefaults entries
    return ⟨headers, body, defaults⟩
  | _ => refuse .responseNotMapping

def ofTrees : List Tree → Except MappingError (List ResponseRules)
  | [] => .ok []
  | t :: ts => do
    let rules ← ofTree t
    let others ← ofTrees ts
    return rules :: others

end ResponseRules

end ActionBridge
