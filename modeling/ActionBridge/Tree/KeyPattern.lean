import ActionBridge.Text.Pieces

namespace ActionBridge

structure KeyPattern where
  test : String → Bool

namespace KeyPattern

def plain (text : List Char) (atStart atEnd : Bool) : KeyPattern :=
  ⟨fun key =>
    let cs := key.toList
    match atStart, atEnd with
    | true, true => cs = text
    | true, false => text.isPrefixOf cs
    | false, true => text.reverse.isPrefixOf cs.reverse
    | false, false => Text.occursIn text cs⟩

/-- A circumflex ties the pattern to the start of a key and a dollar sign to its end. -/
def ofText (pattern : String) : KeyPattern :=
  let (atStart, cs) := match pattern.toList with
    | '^' :: cs => (true, cs)
    | cs => (false, cs)
  match Text.beforeEnd? ['$'] cs with
  | some cs => plain cs atStart true
  | none => plain cs atStart false

def context : KeyPattern :=
  plain "@context".toList true true

end KeyPattern

def isExcluded (pattern : Option KeyPattern) (key : String) : Bool :=
  match pattern with
  | some p => p.test key
  | none => false

end ActionBridge
