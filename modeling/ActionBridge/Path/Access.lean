import ActionBridge.Path.Basic
import ActionBridge.Tree.Basic

namespace ActionBridge.Tree

def step? (segment : String) : Tree → Option Tree
  | mapping entries => entries.lookup segment
  | sequence items => (Path.index? segment).bind (items[·]?)
  | _ => none

def follow? : List String → Tree → Option Tree
  | [], t => some t
  | segment :: segments, t => (t.step? segment).bind (follow? segments)

def get? (t : Tree) (p : Path) : Option Tree :=
  t.follow? p.segments

end ActionBridge.Tree
