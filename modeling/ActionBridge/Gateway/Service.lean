import ActionBridge.Gateway.Invocation
import ActionBridge.Gateway.Settings
import ActionBridge.Text.Utf8
import ActionBridge.Url.Percent

namespace ActionBridge.Service

structure Call where
  method : String
  target : String
  contentType : Option String
  body : String

structure Answer where
  status : Nat
  body : Option Tree
deriving Repr

def refusal (status : Nat) : Answer := ⟨status, none⟩

def success (body : Tree) : Answer := ⟨200, some body⟩

def answerOf : Except GatewayError Tree → Answer
  | .ok body => success body
  | .error e => ⟨e.status, some e.toTree⟩

inductive Task where
  | invoke
  | request
  | response
deriving DecidableEq, Repr

inductive Route where
  | health
  | list
  | action (name : String) (task : Task)
deriving DecidableEq, Repr

def afterScheme? (cs : List Char) : Option (List Char) :=
  Text.afterStart? "://".toList (cs.dropWhile Url.isSchemeChar)

/-- The path of a target, without its query and its fragment. A target may be a whole address; its
path starts behind the authority. -/
def pathOf (target : String) : List Char :=
  let cs := target.toList.takeWhile fun c => c ≠ '?' && c ≠ '#'
  if cs.head? = some '/' then cs
  else
    match afterScheme? cs with
    | some cs => cs.dropWhile (· ≠ '/')
    | none => []

def task? : List String → Option Task
  | [] => some .invoke
  | ["request"] => some .request
  | ["response"] => some .response
  | _ => none

def route? (path : List Char) : Option Route :=
  match (Text.splitAtChar '/' path).map String.ofList with
  | ["", "health"] => some .health
  | ["", "api", "v1", "actions"] => some .list
  | "" :: "api" :: "v1" :: "actions" :: name :: rest =>
    if name.isEmpty then none else (task? rest).map (.action name)
  | _ => none

def decodeName? (name : String) : Option String :=
  (Text.decodeStrict? (Url.percentDecode name.toList)).map String.ofList

def isTokenChar (c : Char) : Bool :=
  32 < c.toNat && c.toNat < 127 && c ∉ "()<>@,;:\\\"/[]?=\x7b\x7d".toList

mutual

/-- Whether a text is what may follow a media type: parameters after semicolons. The fuel is the
length of the text. -/
def isParameters : Nat → List Char → Bool
  | 0, cs => cs.isEmpty
  | fuel + 1, cs =>
    match cs.dropWhile (· = ' ') with
    | [] => true
    | cs =>
      !(cs.takeWhile isTokenChar).isEmpty &&
        match cs.dropWhile isTokenChar with
        | '=' :: '"' :: cs => isQuotedValue fuel cs
        | '=' :: cs =>
          match cs.dropWhile isTokenChar with
          | [] => true
          | ';' :: rest => !(cs.takeWhile isTokenChar).isEmpty && isParameters fuel rest
          | _ => false
        | _ => false

/-- A value whose opening quote has been read, and the parameters after it. The value is not empty,
and a quote that it starts with belongs to it. -/
def isQuotedValue : Nat → List Char → Bool
  | 0, _ => false
  | _ + 1, [] => false
  | fuel + 1, c :: cs =>
    (c :: cs.takeWhile (· ≠ '"')).all (fun c => 31 < c.toNat && c.toNat < 127) &&
      match cs.dropWhile (· ≠ '"') with
      | '"' :: rest =>
        match rest.dropWhile (· = ' ') with
        | [] => true
        | ';' :: rest => isParameters fuel rest
        | _ => false
      | _ => false

end

def isJsonSubtype (cs : List Char) : Bool :=
  match (cs.reverse.span (· ≠ '+')) with
  | (_, []) => cs = "json".toList
  | (ending, _ :: start) =>
    if start.isEmpty then false
    else start.reverse = "json".toList || ending.reverse = "json".toList

def isJsonType (contentType : String) : Bool :=
  match Text.afterStart? "application/".toList (contentType.toList.map Char.toLower) with
  | none => false
  | some cs =>
    isJsonSubtype (cs.takeWhile isTokenChar) &&
      match cs.dropWhile isTokenChar with
      | [] => true
      | ';' :: rest => isParameters (rest.length + 1) rest
      | _ => false

def faultRefusal : DocumentFault → Answer
  | .malformed => refusal 400
  | .wrongShape => refusal 422

def replyCallSchema : Schema :=
  .record [("response", Reply.schema)] [("target", .any)]

def Task.schema : Task → Schema
  | .response => replyCallSchema
  | _ => .any

def bodyOf (task : Task) (call : Call) : Except Answer Tree :=
  if call.contentType.any isJsonType then (task.schema.readFirst call.body).mapError faultRefusal
  else .error (refusal 415)

def nameOf (name : String) : Except Answer String :=
  match decodeName? name with
  | none => .error (refusal 400)
  | some name => .ok name

def readReplyCall? (t : Tree) : Option (Reply × Tree) := do
  let reply ← Reply.ofTree? (← t.lookup? "response")
  return (reply, (t.lookup? "target").getD .null)

def healthOf (g : Gateway) : Tree :=
  .mapping
    [("status", .text "ok"), ("version", .text gatewayVersion), ("actions", .int g.registry.size),
      ("eval_method", .text g.mode.toText)]

def listOf (g : Gateway) : Tree :=
  .mapping
    [("count", .int g.registry.size),
      ("actions", .sequence (g.registry.list.map ActionRules.summary))]

def answerRead (method : String) (body : Tree) : Answer :=
  if method = "GET" then success body
  else if method = "HEAD" then ⟨200, none⟩
  else refusal 405

def answerTask {m : Type → Type} [Monad m] (g : Gateway)
    (send : Request → m (Except GatewayError Reply)) (clock : m String) (name : String)
    (document : Tree) : Task → m Answer
  | .invoke => do return answerOf (← g.invoke send clock name document)
  | .request => pure (answerOf ((g.mapRequest name document).map Request.toTree))
  | .response =>
    match readReplyCall? document with
    | none => pure (faultRefusal .wrongShape)
    | some (reply, target) => pure (answerOf (g.mapReply name reply target))

def readCall (call : Call) (name : String) (task : Task) : Except Answer (String × Tree) := do
  let name ← nameOf name
  let document ← bodyOf task call
  return (name, document)

/-- The answer to a call. `OPTIONS` is always granted, so that pages of other sites may call. -/
def answer {m : Type → Type} [Monad m] (g : Gateway)
    (send : Request → m (Except GatewayError Reply)) (clock : m String) (call : Call) : m Answer :=
  if call.method = "OPTIONS" then pure ⟨200, none⟩
  else
    match route? (pathOf call.target) with
    | none => pure (refusal 404)
    | some .health => pure (answerRead call.method (healthOf g))
    | some .list => pure (answerRead call.method (listOf g))
    | some (.action name task) =>
      if call.method ≠ "POST" then pure (refusal 405)
      else
        match readCall call name task with
        | .error refused => pure refused
        | .ok (name, document) => answerTask g send clock name document task

def headersOf (call : Call) (a : Answer) : List (String × String) :=
  [("access-control-allow-origin", "*")] ++
    (if call.method = "OPTIONS" then
      [("access-control-allow-methods", "*"), ("access-control-allow-headers", "*")]
    else []) ++
    (if a.body.isSome then [("content-type", "application/json")] else [])

end ActionBridge.Service
