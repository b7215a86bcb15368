import ActionBridge.Tree.Basic

namespace ActionBridge.Tree

mutual

/-- Replaces every leaf, in order, by what `transform` makes of it and its location. A leaf without
a result is left out of its container. -/
def traverse {m : Type → Type} [Monad m] (transform : List String → Tree → m (Option Tree))
    (location : List String) : Tree → m (Option Tree)
  | sequence items => do
    return some (sequence (← traverseItems transform location 0 items))
  | mapping entries => do
    return some (mapping (← traverseEntries transform location entries))
  | leaf => transform location leaf

def traverseItems {m : Type → Type} [Monad m] (transform : List String → Tree → m (Option Tree))
    (location : List String) (index : Nat) : List Tree → m (List Tree)
  | [] => pure []
  | t :: ts => do
    let first ← traverse transform (location ++ [toString index]) t
    let others ← traverseItems transform location (index + 1) ts
    return first.toList ++ others

def traverseEntries {m : Type → Type} [Monad m] (transform : List String → Tree → m (Option Tree))
    (location : List String) : List (String × Tree) → m (List (String × Tree))
  | [] => pure []
  | (k, t) :: entries => do
    let first ← traverse transform (location ++ [k]) t
    let others ← traverseEntries transform location entries
    return (first.map (k, ·)).toList ++ others

end

theorem traverse_leaf {m : Type → Type} [Monad m]
    (transform : List String → Tree → m (Option Tree)) (location : List String) {t : Tree}
    (h : t.isContainer = false) : t.traverse transform location = transform location t := by
  cases t with
  | null | bool | number | text => rfl
  | sequence | mapping => cases h

def deepMap (transform : Tree → Option Tree) (template : Tree) : Option Tree :=
  Id.run (template.traverse (fun _ leaf => pure (transform leaf)) [])

def tryDeepMap {ε : Type} (transform : List String → Tree → Except ε (Option Tree))
    (template : Tree) : Except ε (Option Tree) :=
  template.traverse transform []

end ActionBridge.Tree
