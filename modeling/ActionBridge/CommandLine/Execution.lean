import ActionBridge.CommandLine.Arguments
import ActionBridge.Gateway.Dispatch
import ActionBridge.Gateway.Invocation
import ActionBridge.Gateway.Settings

namespace ActionBridge.CommandLine

/-- What commands ask of the machine they run on: what is at a path, the input, the world of
expressions, the way to other hosts, the time, and to listen at an address, which ends only with a
report. -/
structure Machine (m : Type → Type) where
  place : String → m Place
  input : m FileContent
  host : m Expression.Host
  transport : Settings → Transport m
  clock : m String
  listen : String → Gateway → Settings → m String

structure Outcome where
  code : Nat
  out : String
  err : String
deriving DecidableEq, Repr

inductive CommandError where
  | gateway (cause : GatewayError)
  | unreadable (path : String)
  | inputUnreadable (message : String)
  | notJson
  | notReply
  | listening (message : String)

def CommandError.message : CommandError → String
  | gateway cause => cause.message
  | unreadable path => "reading " ++ path
  | inputUnreadable message => message
  | notJson => "input is not valid JSON"
  | notReply => "reply must look like \x7b\"headers\": \x7b...\x7d, \"body\": ...\x7d"
  | listening message => message

abbrev Step (m : Type → Type) := ExceptT CommandError m

section

variable {m : Type → Type} [Monad m]

def ofGateway {α : Type} (r : Except GatewayError α) : Step m α :=
  ExceptT.mk (pure (r.mapError .gateway))

def ofRun {α : Type} (run : m (Except GatewayError α)) : Step m α :=
  ExceptT.mk do return (← run).mapError .gateway

def rulesDirectory (machine : Machine m) (explicit : Option String) : m String := do
  let host ← machine.host
  let localRules ← machine.place ".actions"
  let home := (host.environment? "HOME").or (host.environment? "USERPROFILE")
  return Directory.choose explicit (host.environment? "ACTION_RULES_DIR") localRules.isDirectory home

def loadRegistry (machine : Machine m) (directory : String) : Step m Registry := do
  ofGateway (Directory.loadAt directory (← machine.place directory))

def loadSettings (machine : Machine m) (directory : String) : Step m Settings := do
  let path := Directory.join directory Directory.settingsFile
  ofGateway (Settings.loadAt path (← machine.place path))

def checkSettings (settings : Settings) : Except GatewayError Unit :=
  if Wire.isHeaderText settings.userAgent then .ok () else .error (.dispatch "builder error")

def loadGateway (machine : Machine m) (directory : String) (mode : Option EvalMode) :
    Step m (Gateway × Settings) := do
  let settings ← loadSettings machine directory
  let registry ← loadRegistry machine directory
  ofGateway (checkSettings settings)
  let host ← machine.host
  return (⟨registry, .builtin host, mode.getD settings.mode⟩, settings)

def readPlace (path : String) : Place → Except CommandError String
  | .file (.ok text) => .ok text
  | _ => .error (.unreadable path)

def readSource (machine : Machine m) (source : Option String) : Step m String :=
  match source.filter (· ≠ "-") with
  | some path => do ExceptT.mk (pure (readPlace path (← machine.place path)))
  | none => do ExceptT.mk (pure ((← machine.input).mapError .inputUnreadable))

def readTree (machine : Machine m) (source : Option String) : Step m Tree := do
  match Tree.read? (← readSource machine source) with
  | some t => return t
  | none => throw .notJson

def printed (t : Tree) : String :=
  t.toPrettyText ++ "\n"

def padTo (width : Nat) (s : String) : String :=
  s ++ String.ofList (List.replicate (width - s.length) ' ')

def listLine (rules : ActionRules) : String :=
  padTo 24 rules.name ++ " " ++ padTo 7 rules.request.method ++ " " ++ rules.request.url ++ "\n"

def validText (directory : String) (registry : Registry) : String :=
  "Valid rules directory: " ++ directory ++ "\n" ++
    "  Actions: " ++ toString registry.size ++ "\n" ++
    String.join (registry.names.map fun name => "    " ++ name ++ "\n")

def addressFault? (address : String) : Option String :=
  let reversed := address.toList.reverse
  match reversed.dropWhile (· ≠ ':') with
  | [] => some "invalid socket address"
  | _ =>
    match Number.naturalUpTo? (Nat.pow 2 16 - 1) (reversed.takeWhile (· ≠ ':')).reverse with
    | none => some "invalid port value"
    | some _ => none

def serve (machine : Machine m) (gateway : Gateway) (settings : Settings) (address : String) :
    Step m String := do
  match addressFault? address with
  | some message => throw (.listening message)
  | none => throw (.listening (← machine.listen address gateway settings))

def sender (transport : Settings → Transport m) (settings : Settings) (r : Request) :
    m (Except GatewayError Reply) :=
  Dispatch.send (transport settings).checked settings.maxRetries r

def invokeOn (machine : Machine m) (gateway : Gateway) (settings : Settings) (action : String)
    (invocation : Tree) : m (Except GatewayError Tree) :=
  gateway.invoke (sender machine.transport settings) machine.clock action invocation

def execute (machine : Machine m) (directory : String) (mode : Option EvalMode) :
    Command → Step m String
  | .serve address => do
    let (gateway, settings) ← loadGateway machine directory mode
    serve machine gateway settings (address.getD settings.listenAddress)
  | .list => do
    let registry ← loadRegistry machine directory
    return String.join (registry.list.map listLine)
  | .validate => do
    let registry ← loadRegistry machine directory
    return validText directory registry
  | .request action input => do
    let (gateway, _) ← loadGateway machine directory mode
    let invocation ← readTree machine input
    let request ← ofGateway (gateway.mapRequest action invocation)
    return printed request.toTree
  | .response action input target => do
    let (gateway, _) ← loadGateway machine directory mode
    let document ← readTree machine input
    let reply ← ExceptT.mk (pure ((Reply.ofTree? document).elim (.error .notReply) .ok))
    let target ← match target with
      | some path => readTree machine (some path)
      | none => pure .null
    let result ← ofGateway (gateway.mapReply action reply target)
    return printed result
  | .invoke action input => do
    let (gateway, settings) ← loadGateway machine directory mode
    let invocation ← readTree machine input
    let result ← ofRun (invokeOn machine gateway settings action invocation)
    return printed result

def failureText : Command → CommandError → String
  | .validate, e => "Invalid rules: " ++ e.message ++ "\n"
  | _, e => "Error: " ++ e.message ++ "\n"

def usage : String :=
  "Usage: action-gateway [OPTIONS] [COMMAND]\n" ++
    "\nCommands: serve, list, validate, request, response, invoke\n" ++
    "\nOptions: -r, --rules <RULES>  --eval <EVAL>  --log-level <LOG_LEVEL>  -h, --help  -V, --version\n"

def stopOutcome : Stop → Outcome
  | .help => ⟨0, usage, ""⟩
  | .version => ⟨0, "action-gateway " ++ gatewayVersion ++ "\n", ""⟩
  | .misuse => ⟨2, "", usage⟩

def run (machine : Machine m) (arguments : List String) : m Outcome := do
  match parse arguments with
  | .error s => return stopOutcome s
  | .ok arguments =>
    let directory ← rulesDirectory machine arguments.rules
    match ← (execute machine directory arguments.mode arguments.command).run with
    | .ok out => return ⟨0, out, ""⟩
    | .error e => return ⟨1, "", failureText arguments.command e⟩

end

end ActionBridge.CommandLine
