import ActionBridge.Mapping.Evaluator
import ActionBridge.Text.Pieces

namespace ActionBridge.CommandLine

inductive Command where
  | serve (address : Option String)
  | list
  | validate
  | request (action : String) (input : Option String)
  | response (action : String) (input target : Option String)
  | invoke (action : String) (input : Option String)
deriving DecidableEq, Repr

structure Arguments where
  rules : Option String
  mode : Option EvalMode
  command : Command
deriving DecidableEq, Repr

inductive Stop where
  | help
  | version
  | misuse
deriving DecidableEq, Repr

structure OptionName where
  letter : Option Char
  long : String
deriving DecidableEq, Repr

structure Level where
  options : List OptionName
  hasVersion : Bool
  places : Nat

def sharedOptions : List OptionName :=
  [⟨some 'r', "rules"⟩, ⟨none, "eval"⟩]

def topLevel : Level :=
  ⟨sharedOptions ++ [⟨none, "log-level"⟩], true, 0⟩

def inputOption : OptionName := ⟨some 'i', "input"⟩

def commandLevel? (command : String) : Option Level :=
  match command with
  | "serve" => some ⟨sharedOptions ++ [⟨none, "addr"⟩], false, 0⟩
  | "list" => some ⟨sharedOptions, false, 0⟩
  | "validate" => some ⟨sharedOptions, false, 0⟩
  | "request" => some ⟨sharedOptions ++ [inputOption], false, 1⟩
  | "response" => some ⟨sharedOptions ++ [inputOption, ⟨some 't', "target"⟩], false, 1⟩
  | "invoke" => some ⟨sharedOptions ++ [inputOption], false, 1⟩
  | _ => none

structure Seen where
  values : List (String × String)
  others : List String

def Seen.none : Seen := ⟨[], []⟩

def Seen.value? (seen : Seen) (long : String) : Option String :=
  seen.values.lookup long

def isValueOf (long text : String) : Bool :=
  match long, EvalMode.ofText text with
  | "eval", .error _ => false
  | _, _ => true

def Seen.take (seen : Seen) (long text : String) : Except Stop Seen :=
  if (seen.value? long).isSome || !isValueOf long text then .error .misuse
  else .ok { seen with values := (long, text) :: seen.values }

inductive Meaning where
  | stop (s : Stop)
  | value (long text : String)
  | valueFollows (long : String)
  | noMoreOptions
  | other

def meaningOfLetters (level : Level) : List Char → Meaning
  | [] => .stop .misuse
  | c :: rest =>
    if c = 'h' then .stop .help
    else if c = 'V' && level.hasVersion then .stop .version
    else
      match level.options.find? (·.letter = some c), rest with
      | none, _ => .stop .misuse
      | some option, [] => .valueFollows option.long
      | some option, '=' :: text => .value option.long (String.ofList text)
      | some option, text => .value option.long (String.ofList text)

def meaningOfLong (level : Level) (name : String) (text : Option String) : Meaning :=
  if name = "help" && text.isNone then .stop .help
  else if name = "version" && text.isNone && level.hasVersion then .stop .version
  else
    match level.options.find? (·.long = name), text with
    | none, _ => .stop .misuse
    | some option, some text => .value option.long text
    | some option, none => .valueFollows option.long

def meaningOf (level : Level) (argument : String) : Meaning :=
  match argument.toList with
  | ['-', '-'] => .noMoreOptions
  | '-' :: '-' :: cs =>
    let name := String.ofList (cs.takeWhile (· ≠ '='))
    match cs.dropWhile (· ≠ '=') with
    | [] => meaningOfLong level name none
    | _ :: text => meaningOfLong level name (some (String.ofList text))
  | '-' :: c :: cs => meaningOfLetters level (c :: cs)
  | _ => .other

def looksLikeOption (argument : String) : Bool :=
  match argument.toList with
  | '-' :: _ :: _ => true
  | _ => false

inductive Reading where
  | options
  | valueOf (long : String)
  | noOptions
deriving DecidableEq, Repr

def readLevel (level : Level) : Reading → Seen → List String → Except Stop Seen
  | .valueOf _, _, [] => .error .misuse
  | _, seen, [] => .ok seen
  | .valueOf long, seen, argument :: rest =>
    if looksLikeOption argument then .error .misuse
    else do readLevel level .options (← seen.take long argument) rest
  | .noOptions, seen, argument :: rest =>
    if level.places ≤ seen.others.length then .error .misuse
    else readLevel level .noOptions { seen with others := seen.others ++ [argument] } rest
  | .options, seen, argument :: rest =>
    match meaningOf level argument with
    | .stop s => .error s
    | .value long text => do readLevel level .options (← seen.take long text) rest
    | .valueFollows long => readLevel level (.valueOf long) seen rest
    | .noMoreOptions => readLevel level .noOptions seen rest
    | .other =>
      if level.places ≤ seen.others.length then .error .misuse
      else readLevel level .options { seen with others := seen.others ++ [argument] } rest

def readTop : Reading → Seen → List String → Except Stop (Seen × List String)
  | .valueOf _, _, [] => .error .misuse
  | _, seen, [] => .ok (seen, [])
  | .valueOf long, seen, argument :: rest =>
    if looksLikeOption argument then .error .misuse
    else do readTop .options (← seen.take long argument) rest
  | .noOptions, _, _ :: _ => .error .misuse
  | .options, seen, argument :: rest =>
    match meaningOf topLevel argument with
    | .stop s => .error s
    | .value long text => do readTop .options (← seen.take long text) rest
    | .valueFollows long => readTop (.valueOf long) seen rest
    | .noMoreOptions => readTop .noOptions seen rest
    | .other => .ok (seen, argument :: rest)

def commandOf? (command : String) (seen : Seen) : Option Command :=
  match command, seen.others with
  | "serve", [] => some (.serve (seen.value? "addr"))
  | "list", [] => some .list
  | "validate", [] => some .validate
  | "request", [action] => some (.request action (seen.value? "input"))
  | "response", [action] =>
    some (.response action (seen.value? "input") (seen.value? "target"))
  | "invoke", [action] => some (.invoke action (seen.value? "input"))
  | _, _ => none

/-- The value of a shared option; the one after the command counts more. -/
def sharedValue? (top sub : Seen) (long : String) : Option String :=
  (sub.value? long).or (top.value? long)

def argumentsOf (top sub : Seen) (command : Command) : Arguments :=
  ⟨sharedValue? top sub "rules",
    (sharedValue? top sub "eval").bind fun s => (EvalMode.ofText s).toOption, command⟩

def helpFor : List String → Stop
  | [] => .help
  | [command] => if command = "help" || (commandLevel? command).isSome then .help else .misuse
  | _ => .misuse

def parse (arguments : List String) : Except Stop Arguments := do
  let (top, rest) ← readTop .options .none arguments
  match rest with
  | [] => return argumentsOf top .none (.serve none)
  | "help" :: rest => .error (helpFor rest)
  | command :: rest =>
    match commandLevel? command with
    | none => .error .misuse
    | some level =>
      let sub ← readLevel level .options .none rest
      match commandOf? command sub with
      | none => .error .misuse
      | some command => return argumentsOf top sub command

end ActionBridge.CommandLine
