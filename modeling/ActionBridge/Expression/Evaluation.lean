import ActionBridge.Expression.Function
import ActionBridge.Expression.Parser

namespace ActionBridge

structure Limits where
  hostAccess : Bool
  maxLength : Option Nat
  maxDepth : Option Nat
  maxSteps : Option Nat
deriving DecidableEq, Repr

namespace Limits

def unrestricted : Limits := ⟨true, none, none, none⟩

def sandboxed : Limits := ⟨false, some 1024, some 16, some 256⟩

end Limits

namespace Expr

def takeStep (limits : Limits) (steps : Nat) : Except EvaluationError Nat :=
  match limits.maxSteps with
  | some max => if max < steps + 1 then .error (.tooManySteps max) else .ok (steps + 1)
  | none => .ok (steps + 1)

mutual

/-- The value of an expression and the steps taken until then, one for every node. -/
def evalFrom (limits : Limits) (host : Expression.Host) (bound : Tree) (steps : Nat) :
    Expr → Except EvaluationError (Option Tree × Nat)
  | literal value => do
    let steps ← takeStep limits steps
    return (some value, steps)
  | selector none => do
    let steps ← takeStep limits steps
    return (some bound, steps)
  | selector (some path) => do
    let steps ← takeStep limits steps
    return (bound.get? path, steps)
  | plus terms => do
    let steps ← takeStep limits steps
    let (values, steps) ← evalAllFrom limits host bound steps terms
    return (Expression.joinTerms values, steps)
  | call function arguments => do
    let steps ← takeStep limits steps
    let (values, steps) ← evalAllFrom limits host bound steps arguments
    let value ← Expression.call limits.hostAccess host function values
    return (value, steps)

def evalAllFrom (limits : Limits) (host : Expression.Host) (bound : Tree) (steps : Nat) :
    List Expr → Except EvaluationError (List (Option Tree) × Nat)
  | [] => .ok ([], steps)
  | e :: es => do
    let (value, steps) ← evalFrom limits host bound steps e
    let (values, steps) ← evalAllFrom limits host bound steps es
    return (value :: values, steps)

end

def eval (limits : Limits) (host : Expression.Host) (bound : Tree) (e : Expr) :
    Except EvaluationError (Option Tree) :=
  (e.evalFrom limits host bound 0).map (·.1)

end Expr

namespace Expression

def checkLength (limit : Option Nat) (text : String) : Except EvaluationError Unit :=
  match limit with
  | some max => if max < text.utf8ByteSize then .error (.tooLong text.utf8ByteSize max) else .ok ()
  | none => .ok ()

def evaluate (limits : Limits) (host : Host) (text : String) (bound : Tree) :
    Except EvaluationError (Option Tree) := do
  checkLength limits.maxLength text
  let e ← Expr.parse limits.maxDepth text
  e.eval limits host bound

end Expression

end ActionBridge
