import ActionBridge.Path.Basic
import ActionBridge.Tree.Basic

namespace ActionBridge

/-- A selector without a path is the whole bound value. -/
inductive Expr where
  | literal (value : Tree)
  | selector (path : Option Path)
  | call (function : String) (arguments : List Expr)
  | plus (terms : List Expr)
deriving Repr, Inhabited

namespace Expr

def ofTerms : List Expr → Expr
  | [e] => e
  | terms => plus terms

mutual

def size : Expr → Nat
  | call _ arguments => sizeAll arguments + 1
  | plus terms => sizeAll terms + 1
  | _ => 1

def sizeAll : List Expr → Nat
  | [] => 0
  | e :: es => size e + sizeAll es

end

end Expr

end ActionBridge
