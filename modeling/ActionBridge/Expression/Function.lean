import ActionBridge.Expression.Error
import ActionBridge.Path.Write
import ActionBridge.Text.CaseMap

namespace ActionBridge.Expression

structure Host where
  environment? : String → Option String
  now : String

def checkedSum? (start : Int) : List Int → Option Int
  | [] => some start
  | n :: ns =>
    if Number.minSigned ≤ start + n && start + n ≤ Number.maxSigned then checkedSum? (start + n) ns
    else none

def numbersOf : List Tree → List Number
  | [] => []
  | .number n :: ts => n :: numbersOf ts
  | _ :: ts => numbersOf ts

def floatingSum (ns : List Number) : Binary64 :=
  ns.foldl (fun sum n => sum + n.toBinary64) (.zero true)

/-- Integers add up as integers when no partial sum is out of range, and as floating point numbers
otherwise; a sum that is not finite is absent. -/
def sumOf (ns : List Number) : Option Tree :=
  let exact := (ns.mapM Number.toSigned?).bind (checkedSum? 0)
  match exact with
  | some n => some (.int n)
  | none => (Number.ofBinary64? (floatingSum ns)).map .number

def concatTexts (values : List Tree) : Tree :=
  .text (String.join (values.map Tree.plainText))

def joinTerms (terms : List (Option Tree)) : Option Tree :=
  let present := terms.filterMap id
  if present.isEmpty then none
  else if present.all Tree.isNumber then sumOf (numbersOf present)
  else some (concatTexts present)

def unary (name : String) (arguments : List (Option Tree))
    (f : Option Tree → Except EvaluationError (Option Tree)) :
    Except EvaluationError (Option Tree) :=
  match arguments with
  | [a] => f a
  | arguments => .error (.wrongArity name 1 arguments.length)

def mapText (name : String) (arguments : List (Option Tree)) (f : String → String) :
    Except EvaluationError (Option Tree) :=
  unary name arguments fun a => .ok (a.map fun t => .text (f t.plainText))

def join (items : Option Tree) (separator : Option Tree) : Option Tree :=
  let separator := (separator.map Tree.plainText).getD ","
  match items with
  | none => none
  | some (.sequence ts) => some (.text (Text.joinTexts separator (ts.map Tree.plainText)))
  | some t => some (.text t.plainText)

def joinArguments : List (Option Tree) → Except EvaluationError (Option Tree)
  | [items] => .ok (join items none)
  | [items, separator] => .ok (join items separator)
  | arguments => .error (.joinArity arguments.length)

def split (text separator : String) : Except EvaluationError (Option Tree) :=
  match separator.toList with
  | [] => .error .emptySeparator
  | s :: ss =>
    let pieces := Text.splitAtText s ss text.toList
    .ok (some (.sequence (pieces.map fun cs => .text (String.ofList cs))))

def splitArguments : List (Option Tree) → Except EvaluationError (Option Tree)
  | [some text, some separator] => split text.plainText separator.plainText
  | [_, _] => .ok none
  | arguments => .error (.wrongArity "split" 2 arguments.length)

def length : Option Tree → Except EvaluationError (Option Tree)
  | none => .ok none
  | some (.text s) => .ok (some (.int s.length))
  | some (.sequence ts) => .ok (some (.int ts.length))
  | some (.mapping es) => .ok (some (.int es.length))
  | some t => .error (.noLength t)

def first : Option Tree → Option Tree
  | some (.sequence ts) => ts.head?
  | a => a

def firstPresent (arguments : List (Option Tree)) : Option Tree :=
  (arguments.filterMap id).find? (!·.isNull)

def numberOfText? (cs : List Char) : Option Number :=
  match Number.signed? cs with
  | some n => some (.int n)
  | none => (Number.floating? cs).bind Number.ofBinary64?

def toNumber : Tree → Except EvaluationError Tree
  | .number n => .ok (.number n)
  | .bool b => .ok (.int (if b then 1 else 0))
  | .text s =>
    match numberOfText? (Text.trim s.toList) with
    | some n => .ok (.number n)
    | none => .error (.notNumeric (.text s))
  | t => .error (.notNumeric t)

def buildFrom (built : Tree) : List (Option Tree) → Except EvaluationError Tree
  | some (.text key) :: value :: arguments =>
    match Path.parse (String.ofList (key.toList.dropWhile (· = '$'))) with
    | .error e => .error (.invalidPath e)
    | .ok path =>
      match value with
      | none => buildFrom built arguments
      | some t =>
        let written := built.set path t
        match written.failure with
        | some e => .error (.invalidPath e)
        | none => buildFrom written.content arguments
  | _ :: _ :: _ => .error .pathNotText
  | _ => .ok built

def build (arguments : List (Option Tree)) : Except EvaluationError (Option Tree) :=
  if arguments.length % 2 ≠ 0 then .error .unpairedArguments
  else (buildFrom (.mapping []) arguments).map some

def lookupVariable (host : Host) : Option Tree → Except EvaluationError (Option Tree)
  | some (.text name) => .ok ((host.environment? name).map .text)
  | _ => .error .variableNotText

def isHostFunction (name : String) : Bool :=
  name = "env" || name = "now"

def call (hostAccess : Bool) (host : Host) (name : String) (arguments : List (Option Tree)) :
    Except EvaluationError (Option Tree) :=
  if isHostFunction name && !hostAccess then .error (.hostRefused name)
  else
    match name with
    | "concat" => .ok (some (concatTexts (arguments.filterMap id)))
    | "lower" => mapText name arguments Text.toLower
    | "upper" => mapText name arguments Text.toUpper
    | "trim" => mapText name arguments Text.trimText
    | "join" => joinArguments arguments
    | "split" => splitArguments arguments
    | "len" => unary name arguments length
    | "first" => unary name arguments fun a => .ok (first a)
    | "default" => .ok (firstPresent arguments)
    | "number" => unary name arguments fun a =>
      match a with
      | some t => (toNumber t).map some
      | none => .ok none
    | "string" => mapText name arguments id
    | "obj" => build arguments
    | "env" => unary name arguments (lookupVariable host)
    | "now" =>
      if arguments.isEmpty then .ok (some (.text host.now))
      else .error (.wrongArity name 0 arguments.length)
    | name => .error (.unknownFunction name)

end ActionBridge.Expression
