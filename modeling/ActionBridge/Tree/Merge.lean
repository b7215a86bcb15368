import ActionBridge.Tree.Basic
/-!
Merging a tree into another without overwriting anything. Vacant slots take a copy, containers are
merged entry by entry, and a sequence of the target takes the merge on every item.
-/

namespace ActionBridge.Tree

mutual

def strip (excluded : String → Bool) : Tree → Tree
  | sequence items => sequence (stripItems excluded items)
  | mapping entries => mapping (stripEntries excluded entries)
  | leaf => leaf

def stripItems (excluded : String → Bool) : List Tree → List Tree
  | [] => []
  | t :: ts => strip excluded t :: stripItems excluded ts

def stripEntries (excluded : String → Bool) : List (String × Tree) → List (String × Tree)
  | [] => []
  | (k, t) :: entries =>
    if excluded k then stripEntries excluded entries
    else (k, strip excluded t) :: stripEntries excluded entries

end

mutual

def onMappings (change : Entries → Entries) : Tree → Tree
  | mapping entries => mapping (change entries)
  | sequence items => sequence (onMappingsItems change items)
  | scalar => scalar

def onMappingsItems (change : Entries → Entries) : List Tree → List Tree
  | [] => []
  | t :: ts => onMappings change t :: onMappingsItems change ts

end

def modifyKey (change : Tree → Tree) (key : String) : Entries → Entries
  | [] => []
  | (k, t) :: entries =>
    if k = key then (k, change t) :: entries else (k, t) :: modifyKey change key entries

mutual

def merge (excluded : String → Bool) : Tree → Tree → Tree
  | mapping source, target => target.onMappings (mergeEntries excluded source)
  | _, target => target

/-- Merges entries one after another: into a vacant slot goes a copy, and into any other slot what a
container has to give. -/
def mergeEntries (excluded : String → Bool) : List (String × Tree) → Entries → Entries
  | [], target => target
  | (key, value) :: source, target =>
    mergeEntries excluded source
      (if excluded key then target
      else if shapeOf? (target.lookup key) = .absent then target.put key (strip excluded value)
      else modifyKey (merge excluded value) key target)

end

end ActionBridge.Tree
