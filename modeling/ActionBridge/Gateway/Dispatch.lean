import ActionBridge.Exchange.Reply
import ActionBridge.Gateway.Error
import ActionBridge.Gateway.Transport
import ActionBridge.Text.Pieces
import ActionBridge.Text.Utf8
import ActionBridge.Tree.Reader
/-!
Sending requests. A request that can be repeated without harm is sent again when the other side is
out of order or asks for a pause; any other is sent once.
-/

namespace ActionBridge

namespace Dispatch

def isIdempotent (method : String) : Bool :=
  method ∈ ["GET", "HEAD", "OPTIONS", "TRACE", "PUT", "DELETE"]

def addHeader (headers : Entries) (name value : String) : Entries :=
  match headers.lookup name with
  | some (.text held) => headers.put name (.text (held ++ ", " ++ value))
  | _ => headers.put name (.text value)

def headerEntries (headers : List (String × List UInt8)) : Entries :=
  headers.foldl
    (fun acc (name, value) =>
      addHeader acc (String.ofList (name.toList.map Char.toLower))
        (String.ofList (Text.decodeLossy value)))
    []

def visibleHeader? (name : String) (headers : List (String × List UInt8)) : Option (List Char) :=
  (headers.find? fun h => h.1.toList.map Char.toLower = name.toList).bind fun (_, value) =>
    if value.all fun b => b = 9 || (32 ≤ b.toNat && b.toNat < 127) then
      some (value.map fun b => Char.ofNat b.toNat)
    else none

def declaresJson (headers : List (String × List UInt8)) : Bool :=
  match visibleHeader? "content-type" headers with
  | some cs => Text.occursIn "json".toList (cs.map Char.toLower)
  | none => false

def bodyTree (isJson : Bool) (body : String) : Tree :=
  if (Text.trim body.toList).isEmpty then .null
  else if isJson then (Tree.read? body).getD (.text body)
  else .text body

def replyOf (raw : RawReply) : Reply :=
  .ofStatus raw.status (headerEntries raw.headers) (bodyTree (declaresJson raw.headers) raw.body)

/-- The pause before the retry of a number from 1, doubled every time. The product wraps past 64
bits, which it does from retry 57 on, as arithmetic without overflow checks does; with such checks
the program would stop there. -/
def backoffMs (retry : Nat) : Nat :=
  500 * Nat.pow 2 (retry - 1) % Nat.pow 2 64

/-- The pause that a reply asks for, at most ten seconds and two if it does not say. -/
def retryAfterMs (headers : List (String × List UInt8)) : Nat :=
  let seconds := ((visibleHeader? "retry-after" headers).bind
    (Number.naturalUpTo? (Nat.pow 2 64 - 1))).getD 2
  1000 * min seconds 10

def retryPause? (retry : Nat) (raw : RawReply) : Option Nat :=
  if 500 ≤ raw.status then some (backoffMs retry)
  else if raw.status = 429 then some (retryAfterMs raw.headers)
  else none

/-- Sends a request again as long as `retries` are left; `retry` is the number of the next one. -/
def attempt {m : Type → Type} [Monad m] (transport : Transport m) (request : Request)
    (retry : Nat) : Nat → m (Except GatewayError Reply)
  | 0 => do
    match ← transport.send request with
    | .ok raw => return .ok (replyOf raw)
    | .error fault => return .error (.dispatch fault.message)
  | retries + 1 => do
    match ← transport.send request with
    | .ok raw =>
      match retryPause? retry raw with
      | some ms =>
        transport.pause ms
        attempt transport request (retry + 1) retries
      | none => return .ok (replyOf raw)
    | .error fault =>
      if fault.isTransient then
        transport.pause (backoffMs retry)
        attempt transport request (retry + 1) retries
      else return .error (.dispatch fault.message)

def retriesFor (maxRetries : Nat) (method : String) : Nat :=
  if isIdempotent method then maxRetries else 0

def send {m : Type → Type} [Monad m] (transport : Transport m) (maxRetries : Nat)
    (request : Request) : m (Except GatewayError Reply) :=
  if Wire.isToken request.method then
    attempt transport request 1 (retriesFor maxRetries request.method)
  else pure (.error (.badMethod request.method))

end Dispatch

end ActionBridge
