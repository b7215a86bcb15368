import ActionBridge.Exchange.Request
import ActionBridge.Url.Parser

namespace ActionBridge

structure RawReply where
  status : Nat
  headers : List (String × List UInt8)
  body : String

structure TransportFault where
  message : String
  isTransient : Bool

structure Transport (m : Type → Type) where
  send : Request → m (Except TransportFault RawReply)
  pause : Nat → m Unit

namespace Wire

def isTokenChar (c : Char) : Bool :=
  c.isAlphanum || c ∈ "!#$%&'*+-.^_|~\x60".toList

def isToken (s : String) : Bool :=
  !s.isEmpty && s.toList.all isTokenChar

def isHeaderText (s : String) : Bool :=
  s.toList.all fun c => c = '\t' || (32 ≤ c.toNat && c.toNat ≠ 127)

def shownUrl (u : Url) : String :=
  Url.toText { u with authority := u.authority.map fun a => { a with userInfo := [] } }

def hasHost (u : Url) : Bool :=
  (u.authority.bind (·.host)).isSome

def fault? (r : Request) : Option String :=
  match Url.parse r.url with
  | .error _ => some "builder error"
  | .ok u =>
    let badUrl := "builder error for url (" ++ shownUrl u ++ ")"
    if !hasHost u then some badUrl
    else if r.headers.entries.any fun (name, value) => !isToken name || !isHeaderText value then
      some "builder error"
    else if u.scheme ≠ "http" && u.scheme ≠ "https" then some badUrl
    else none

end Wire

def TransportFault.unreached (r : Request) : TransportFault :=
  match Url.parse r.url with
  | .ok u => ⟨"error sending request for url (" ++ Wire.shownUrl u ++ ")", true⟩
  | .error _ => ⟨"error sending request", true⟩

def Transport.checked {m : Type → Type} [Monad m] (t : Transport m) : Transport m :=
  { t with
    send := fun r =>
      match Wire.fault? r with
      | some message => pure (.error ⟨message, false⟩)
      | none => t.send r }

end ActionBridge
