import ActionBridge.Gateway.Transport
import ActionBridge.Text.Utf8
import ActionBridge.Tree.Printer

namespace ActionBridge.Message

def bodyText : Tree → String × Bool
  | .text s => (s, false)
  | t => (t.toText, true)

def targetOf (u : Url) : String :=
  let path := match u.path.toText with
    | [] => ['/']
    | cs => cs
  let query := match u.query with
    | some q => '?' :: q
    | none => []
  String.ofList (path ++ query)

def hostOf (u : Url) : String :=
  match u.authority with
  | some a => String.ofList { a with userInfo := [] }.toText
  | none => ""

def impliedHeaders (userAgent : String) (body : Option (String × Bool)) (u : Url) :
    List (String × String) :=
  let json := match body with
    | some (_, true) => [("content-type", "application/json")]
    | _ => []
  [("host", hostOf u), ("accept", "*/*"), ("user-agent", userAgent)] ++ json

def sameName (a b : String) : Bool :=
  a.toList.map Char.toLower = b.toList.map Char.toLower

def headersOf (userAgent : String) (r : Request) (u : Url) : List (String × String) :=
  let body := r.body.map bodyText
  let implied := (impliedHeaders userAgent body u).filter fun (name, _) =>
    r.headers.entries.all fun h => !sameName h.1 name
  let length := match body with
    | some (text, _) => [("content-length", toString text.utf8ByteSize)]
    | none => []
  implied ++ r.headers.entries ++ length ++ [("connection", "close")]

def requestText (userAgent : String) (r : Request) (u : Url) : String :=
  r.method ++ " " ++ targetOf u ++ " HTTP/1.1\r\n" ++
    String.join ((headersOf userAgent r u).map fun (name, value) => name ++ ": " ++ value ++ "\r\n") ++
    "\r\n" ++ ((r.body.map fun t => (bodyText t).1).getD "")

def dropReturn (line : List UInt8) : List UInt8 :=
  if line.getLast? = some 13 then line.dropLast else line

def takeLine? : List UInt8 → Option (List UInt8 × List UInt8)
  | [] => none
  | b :: bytes =>
    if b = 10 then some ([], bytes)
    else (takeLine? bytes).map fun (line, rest) => (b :: line, rest)

def line? (bytes : List UInt8) : Option (List UInt8 × List UInt8) :=
  (takeLine? bytes).map fun (line, rest) => (dropReturn line, rest)

def plainChars (bytes : List UInt8) : List Char :=
  bytes.map fun b => Char.ofNat b.toNat

def isSpace (b : UInt8) : Bool :=
  b = 32 || b = 9

def trimBytes (bytes : List UInt8) : List UInt8 :=
  (((bytes.dropWhile isSpace).reverse).dropWhile isSpace).reverse

def status? (line : List UInt8) : Option Nat :=
  match Text.afterStart? "HTTP/1.".toList (plainChars line) with
  | some (_ :: ' ' :: cs) => Number.naturalUpTo? 999 (cs.takeWhile (· ≠ ' '))
  | _ => none

def headerLines? : Nat → List UInt8 → Option (List (String × List UInt8) × List UInt8)
  | 0, _ => none
  | fuel + 1, bytes => do
    let (line, rest) ← line? bytes
    if line.isEmpty then return ([], rest)
    let name := String.ofList (plainChars (line.takeWhile (· ≠ 58)))
    let value := trimBytes ((line.dropWhile (· ≠ 58)).drop 1)
    let (headers, rest) ← headerLines? fuel rest
    return ((name, value) :: headers, rest)

/-- The bytes of a body in chunks, each after its length; the fuel is the number of bytes. -/
def chunks? : Nat → List UInt8 → Option (List UInt8)
  | 0, _ => none
  | fuel + 1, bytes => do
    let (line, rest) ← line? bytes
    let digits := (plainChars line).takeWhile fun c => (Number.hexDigit? c).isSome
    let size ← if digits.isEmpty then none else Number.ofRadix? 16 digits
    if size = 0 then return []
    if rest.length < size then none
    let (_, after) ← line? (rest.drop size)
    return rest.take size ++ (← chunks? fuel after)

def header? (name : String) (headers : List (String × List UInt8)) : Option (List Char) :=
  (headers.find? fun h => sameName h.1 name).map fun h => plainChars h.2

def body? (headers : List (String × List UInt8)) (bytes : List UInt8) : Option (List UInt8) :=
  match header? "transfer-encoding" headers, header? "content-length" headers with
  | some coding, _ =>
    if Text.occursIn "chunked".toList (coding.map Char.toLower) then chunks? (bytes.length + 1) bytes
    else some bytes
  | none, some digits => do
    let size ← Number.naturalUpTo? (Nat.pow 2 63) digits
    if bytes.length < size then none else some (bytes.take size)
  | none, none => some bytes

def isBodiless (method : String) (status : Nat) : Bool :=
  method = "HEAD" || status = 204 || status = 304

def decodeBody (bytes : List UInt8) : String :=
  match Text.decodeLossy bytes with
  | '\uFEFF' :: cs => String.ofList cs
  | cs => String.ofList cs

def reply? (method : String) (bytes : List UInt8) : Option RawReply := do
  let (first, rest) ← line? bytes
  let status ← status? first
  let (headers, rest) ← headerLines? (rest.length + 1) rest
  let body ← if isBodiless method status then some [] else body? headers rest
  return ⟨status, headers, decodeBody body⟩

end ActionBridge.Message
