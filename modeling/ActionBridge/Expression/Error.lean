import ActionBridge.Expression.Token
import ActionBridge.Tree.Printer

namespace ActionBridge

open Expression

inductive EvaluationError where
  | tooLong (bytes limit : Nat)
  | unterminatedText (position : Nat)
  | invalidNumber (numeral : String)
  | unclosedBracket (position : Nat)
  | invalidPath (cause : PathError)
  | unexpectedCharacter (c : Char) (position : Nat)
  | tooDeep (limit : Nat)
  | unexpected (met : Option Token)
  | expected (token : Token) (met : Option Token)
  | expectedArgumentEnd (met : Option Token)
  | trailing (met : Token)
  | tooManySteps (limit : Nat)
  | hostRefused (function : String)
  | unknownFunction (function : String)
  | wrongArity (function : String) (wanted got : Nat)
  | joinArity (got : Nat)
  | emptySeparator
  | noLength (value : Tree)
  | notNumeric (value : Tree)
  | unpairedArguments
  | pathNotText
  | variableNotText
  | notMapping (value : Tree)
  | custom (message : String)

def EvaluationError.message : EvaluationError → String
  | tooLong bytes limit =>
    "expression is " ++ toString bytes ++ " bytes, limit is " ++ toString limit
  | unterminatedText position => "unterminated string literal at position " ++ toString position
  | invalidNumber numeral => "invalid number: " ++ numeral
  | unclosedBracket position => "unclosed bracket at position " ++ toString position
  | invalidPath cause => cause.message
  | unexpectedCharacter c position =>
    "unexpected character '" ++ String.singleton c ++ "' at position " ++ toString position
  | tooDeep limit => "expression nested deeper than " ++ toString limit
  | unexpected met => "unexpected " ++ describeMet met
  | expected token met => "expected " ++ token.describe ++ ", found " ++ describeMet met
  | expectedArgumentEnd met => "expected ',' or ')', found " ++ describeMet met
  | trailing met => "unexpected " ++ met.describe ++ " after expression"
  | tooManySteps limit => "step limit of " ++ toString limit ++ " exceeded"
  | hostRefused function => "`" ++ function ++ "` is not available in the sandbox"
  | unknownFunction function => "unknown function `" ++ function ++ "`"
  | wrongArity function wanted got =>
    function ++ "() takes " ++ toString wanted ++ " argument(s), got " ++ toString got
  | joinArity got => "join() takes 1 or 2 arguments, got " ++ toString got
  | emptySeparator => "split() separator must not be empty"
  | noLength value => "len() of " ++ value.toText
  | notNumeric value => "cannot convert " ++ value.toText ++ " to a number"
  | unpairedArguments => "obj() takes path/value pairs"
  | pathNotText => "obj() paths must be strings"
  | variableNotText => "env() takes a variable name"
  | notMapping value => "response expressions must yield a mapping, got " ++ value.toText
  | custom message => message

end ActionBridge
