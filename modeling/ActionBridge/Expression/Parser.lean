import ActionBridge.Expression.Basic
import ActionBridge.Expression.Lexer
/-!
Expressions read from tokens. The brackets that are open are kept in a list, so every token is taken
once and the depth of nesting is the length of that list.
-/

namespace ActionBridge

namespace Expression

inductive Opening where
  | group
  | call (function : String) (arguments : List Expr)
deriving Repr

structure Bracket where
  before : List Expr
  opening : Opening
deriving Repr

def wordLiteral? (name : String) : Option Tree :=
  if name = "true" then some (.bool true)
  else if name = "false" then some (.bool false)
  else if name = "null" then some .null
  else none

def operand? : Token → Option Expr
  | .text s => some (.literal (.text s))
  | .number n => some (.literal (.number n))
  | .selector path => some (.selector path)
  | .word name => (wordLiteral? name).map .literal
  | _ => none

def checkDepth (limit : Option Nat) (depth : Nat) : Except EvaluationError Unit :=
  match limit with
  | some max => if max < depth then .error (.tooDeep max) else .ok ()
  | none => .ok ()

def depthOf (brackets : List Bracket) : Nat :=
  brackets.length + 1

mutual

def readOperand (limit : Option Nat) (brackets : List Bracket) (terms : List Expr) :
    List Token → Except EvaluationError Expr
  | [] => .error (.unexpected none)
  | .open_ :: tokens =>
    let inner := ⟨terms, .group⟩ :: brackets
    match checkDepth limit (depthOf inner) with
    | .error e => .error e
    | .ok () => readOperand limit inner [] tokens
  | token :: tokens =>
    match operand? token with
    | some e => readAfter limit brackets (terms ++ [e]) tokens
    | none =>
      match token, tokens with
      | .word name, .open_ :: .close :: tokens =>
        readAfter limit brackets (terms ++ [.call name []]) tokens
      | .word name, .open_ :: tokens =>
        let inner := ⟨terms, .call name []⟩ :: brackets
        match checkDepth limit (depthOf inner) with
        | .error e => .error e
        | .ok () => readOperand limit inner [] tokens
      | .word _, tokens => .error (.expected .open_ tokens.head?)
      | token, _ => .error (.unexpected (some token))
termination_by structural tokens => tokens

def readAfter (limit : Option Nat) (brackets : List Bracket) (terms : List Expr) :
    List Token → Except EvaluationError Expr
  | .plus :: tokens => readOperand limit brackets terms tokens
  | tokens =>
    match brackets, tokens with
    | [], [] => .ok (.ofTerms terms)
    | [], token :: _ => .error (.trailing token)
    | ⟨before, .group⟩ :: brackets, .close :: tokens =>
      readAfter limit brackets (before ++ [.ofTerms terms]) tokens
    | ⟨_, .group⟩ :: _, tokens => .error (.expected .close tokens.head?)
    | ⟨before, .call name arguments⟩ :: brackets, .comma :: tokens =>
      readOperand limit (⟨before, .call name (arguments ++ [.ofTerms terms])⟩ :: brackets) [] tokens
    | ⟨before, .call name arguments⟩ :: brackets, .close :: tokens =>
      readAfter limit brackets (before ++ [.call name (arguments ++ [.ofTerms terms])]) tokens
    | ⟨_, .call _ _⟩ :: _, tokens => .error (.expectedArgumentEnd tokens.head?)
termination_by structural tokens => tokens

end

def ofTokens (limit : Option Nat) (tokens : List Token) : Except EvaluationError Expr :=
  match checkDepth limit (depthOf []) with
  | .error e => .error e
  | .ok () => readOperand limit [] [] tokens

end Expression

def Expr.parse (limit : Option Nat) (text : String) : Except EvaluationError Expr :=
  match Expression.tokens text with
  | .error e => .error e
  | .ok tokens => Expression.ofTokens limit tokens

end ActionBridge
