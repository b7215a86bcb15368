import ActionBridge.CommandLine.Execution
import ActionBridge.Gateway.Message
import ActionBridge.Gateway.Service
import Std.Async
import Std.Http

namespace ActionBridge.Network

open Std.Async Std.Http Std.Net

def addressOf (host : String) (port : Nat) : Async SocketAddress := do
  match (← DNS.getAddrInfo host (toString port)).toList with
  | .v4 ip :: _ => return .v4 ⟨ip, UInt16.ofNat port⟩
  | .v6 ip :: _ => return .v6 ⟨ip, UInt16.ofNat port⟩
  | [] => throw (IO.userError "failed to lookup address information")

def hostName : Url.Host → String
  | .ipv6 groups =>
    String.ofList ((Url.Host.toText (.ipv6 groups)).filter fun c => c ≠ '[' && c ≠ ']')
  | h => String.ofList h.toText

partial def receiveAll (client : TCP.Socket.Client) (received : Array UInt8) :
    Async (List UInt8) := do
  match ← client.recv? 65536 with
  | some bytes => receiveAll client (received ++ bytes.data)
  | none => return received.toList

def exchange (host : String) (port : Nat) (message : String) : Async (List UInt8) := do
  let client ← TCP.Socket.Client.mk
  client.connect (← addressOf host port)
  client.send message.toUTF8
  receiveAll client #[]

def within (milliseconds : Nat) (task : Async (List UInt8)) : Async (List UInt8) :=
  Async.race task do
    Std.Async.sleep (Std.Time.Millisecond.Offset.ofInt milliseconds)
    throw (IO.userError "operation timed out")

def send (settings : Settings) (r : Request) : Async (Except TransportFault RawReply) := do
  match Url.parse r.url with
  | .error _ => return .error (.unreached r)
  | .ok u =>
    match u.scheme, u.authority.bind (·.host), u.authority.bind (·.port) with
    | "http", some host, port =>
      try
        let message := Message.requestText settings.userAgent r u
        let bytes ← within settings.timeoutMs (exchange (hostName host) (port.getD 80) message)
        match Message.reply? r.method bytes with
        | some raw => return .ok raw
        | none => return .error { TransportFault.unreached r with isTransient := false }
      catch _ => return .error (.unreached r)
    | _, _, _ => return .error (.unreached r)

def transport (settings : Settings) : Transport Async :=
  ⟨send settings, fun milliseconds => Std.Async.sleep (Std.Time.Millisecond.Offset.ofInt milliseconds)⟩

def callOf (request : Std.Http.Request Body.Stream) (body : ByteArray) : Service.Call :=
  ⟨toString request.line.method, toString request.line.uri,
    (request.line.headers.get? Header.Name.contentType).map (·.value),
    (String.fromUTF8? body).getD ""⟩

def responseOf (call : Service.Call) (a : Service.Answer) : Async (Response Body.Any) := do
  let status := (Status.ofCode none (UInt16.ofNat a.status)).getD .internalServerError
  let start := Response.withStatus status
  let builder := (Service.headersOf call a).foldl (fun b (name, value) => b.header! name value) start
  let body ← Body.Full.ofString ((a.body.map Tree.toText).getD "")
  return builder.body (Body.Any.ofBody body)

def respond (host : Async Expression.Host) (clock : Async String) (gateway : Gateway)
    (settings : Settings) (request : Std.Http.Request Body.Stream) (body : ByteArray) :
    Async (Response Body.Any) := do
  let gateway := { gateway with evaluators := .builtin (← host) }
  let call := callOf request body
  let send := CommandLine.sender transport settings
  responseOf call (← Service.answer gateway send clock call)

def listen (host : Async Expression.Host) (clock : Async String) (address : String)
    (gateway : Gateway) (settings : Settings) : Async String := do
  let reversed := address.toList.reverse
  let port := Number.ofDigits (reversed.takeWhile (· ≠ ':')).reverse
  let name := String.ofList ((reversed.dropWhile (· ≠ ':')).drop 1).reverse
  try
    let handler := Server.Handler.ofFn fun request => do
      let body : ByteArray ← request.body.readAll
      liftM (respond host clock gateway settings request body)
    let server ← Server.serve (← addressOf name port) handler
    server.waitShutdown
    return "stopped"
  catch e => return toString e

end ActionBridge.Network
