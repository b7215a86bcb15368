import ActionBridge.Path.Basic
import ActionBridge.Tree.Basic

namespace ActionBridge

inductive Selector where
  | path (p : Path)
  | expression (text : String)
  | literal
deriving DecidableEq, Repr

namespace Selector

def isLiteral : Selector → Bool
  | literal => true
  | _ => false

def pathText? : List Char → Option (List Char)
  | '$' :: '.' :: cs => some ('.' :: cs)
  | '$' :: '[' :: cs => some ('[' :: cs)
  | _ => none

def expressionText? (cs : List Char) : Option (List Char) :=
  ((Text.afterStart? ['\x7b', '\x7b'] (Text.trim cs)).bind
    (Text.beforeEnd? ['\x7d', '\x7d'])).map Text.trim

def isPure (raw : String) : Bool :=
  (pathText? raw.toList).isSome

def ofText (raw : String) : Except PathError Selector :=
  match pathText? raw.toList with
  | some cs => (Path.parse (String.ofList cs)).map path
  | none =>
    match expressionText? raw.toList with
    | some cs => .ok (expression (String.ofList cs))
    | none => .ok literal

def ofLeaf : Tree → Except PathError Selector
  | .text s => ofText s
  | _ => .ok literal

end Selector

end ActionBridge
