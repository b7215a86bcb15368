import ActionBridge.Gateway.Directory
import ActionBridge.Mapping.Evaluator
import ActionBridge.Tree.Record
import ActionBridge.Tree.Schema

namespace ActionBridge

structure Settings where
  mode : EvalMode
  timeoutMs : Nat
  maxRetries : Nat
  maxRedirects : Nat
  userAgent : String
  listenAddress : String
deriving DecidableEq, Repr

def gatewayVersion : String := "0.1.0"

namespace Settings

def standard : Settings :=
  ⟨.sandbox, 10000, 2, 5, "action-mapper/" ++ gatewayVersion, "127.0.0.1:3200"⟩

def fieldNames : List String :=
  ["eval_method", "timeout_ms", "max_retries", "max_redirects", "user_agent", "listen_addr"]

def schema : Schema :=
  .record [] (fieldNames.map (·, .any))

def fieldOr? {α : Type} (read : Tree → Option α) (fallback : α) : Option Tree → Option α
  | none => some fallback
  | some t => read t

def naturalUpTo (bound : Nat) : Tree → Option Nat
  | .number n => n.toUnsigned?.filter (· ≤ bound)
  | _ => none

def textOf : Tree → Option String
  | .text s => some s
  | _ => none

def ofTree? (t : Tree) : Option Settings :=
  t.readRecord? fieldNames fun field => do
    let mode ← fieldOr? EvalMode.ofTree? standard.mode (field "eval_method")
    let timeoutMs ← fieldOr? (naturalUpTo (Nat.pow 2 64 - 1)) standard.timeoutMs (field "timeout_ms")
    let maxRetries ← fieldOr? (naturalUpTo (Nat.pow 2 32 - 1)) standard.maxRetries (field "max_retries")
    let maxRedirects ←
      fieldOr? (naturalUpTo (Nat.pow 2 64 - 1)) standard.maxRedirects (field "max_redirects")
    let userAgent ← fieldOr? textOf standard.userAgent (field "user_agent")
    let listenAddress ← fieldOr? textOf standard.listenAddress (field "listen_addr")
    return ⟨mode, timeoutMs, maxRetries, maxRedirects, userAgent, listenAddress⟩

def toTree (s : Settings) : Tree :=
  .mapping
    [("eval_method", .text s.mode.toText), ("timeout_ms", .int s.timeoutMs),
      ("max_retries", .int s.maxRetries), ("max_redirects", .int s.maxRedirects),
      ("user_agent", .text s.userAgent), ("listen_addr", .text s.listenAddress)]

def ofText (path text : String) : Except GatewayError Settings :=
  match (schema.readWhole text).toOption.bind ofTree? with
  | some settings => .ok settings
  | none => .error (.fileMalformed path)

def loadAt (path : String) : Place → Except GatewayError Settings
  | .file (.ok text) => ofText path text
  | .file (.error message) => .error (.unreadable message)
  | _ => .ok standard

end Settings

end ActionBridge
