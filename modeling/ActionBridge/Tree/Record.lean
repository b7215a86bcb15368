import ActionBridge.Tree.Basic

namespace ActionBridge.Tree

def fields? (names : List String) : Tree → Option (String → Option Tree)
  | mapping entries => some (entries.lookup ·)
  | sequence items =>
    if names.length < items.length then none else some ((names.zip items).lookup ·)
  | _ => none

def readRecord? {α : Type} (names : List String) (decode : (String → Option Tree) → Option α)
    (t : Tree) : Option α :=
  (t.fields? names).bind decode

end ActionBridge.Tree
