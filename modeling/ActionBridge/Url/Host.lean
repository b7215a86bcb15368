import ActionBridge.Number.Numeral
import ActionBridge.Url.Name
import ActionBridge.Url.Percent

namespace ActionBridge

inductive UrlError where
  | missingScheme
  | emptyHost
  | invalidDomain
  | invalidHostCharacter
  | invalidPort
  | invalidIpv4
  | invalidIpv6
deriving DecidableEq, Repr

def UrlError.message : UrlError → String
  | missingScheme => "relative URL without a base"
  | emptyHost => "empty host"
  | invalidDomain => "invalid international domain name"
  | invalidHostCharacter => "invalid domain character"
  | invalidPort => "invalid port number"
  | invalidIpv4 => "invalid IPv4 address"
  | invalidIpv6 => "invalid IPv6 address"

namespace Url

inductive Host where
  | name (cs : List Char)
  | ipv4 (address : Nat)
  | ipv6 (groups : List Nat)
deriving DecidableEq, Repr

def addressPart? : List Char → Option Nat
  | [] => none
  | '0' :: 'x' :: cs => Number.ofRadix? 16 cs
  | '0' :: 'X' :: cs => Number.ofRadix? 16 cs
  | '0' :: c :: cs => Number.ofRadix? 8 (c :: cs)
  | cs => Number.ofRadix? 10 cs

def addressParts (cs : List Char) : List (List Char) :=
  let parts := Text.splitAtChar '.' cs
  if parts.getLast? = some [] then parts.dropLast else parts

def endsInNumber (cs : List Char) : Bool :=
  match (addressParts cs).getLast? with
  | some part => (!part.isEmpty && part.all Char.isDigit) || (addressPart? part).isSome
  | none => false

/-- Up to four parts; the last one fills the bytes that the others leave. -/
def ipv4? (cs : List Char) : Option Nat := do
  let numbers ← (addressParts cs).mapM addressPart?
  let last ← numbers.getLast?
  let lead := numbers.dropLast
  if 3 < lead.length || lead.any (255 < ·) || Nat.pow 256 (4 - lead.length) ≤ last then none
  else
    some (lead.zipIdx.foldl (fun sum (n, i) => sum + n * Nat.pow 256 (3 - i)) last)

def ipv4Text (address : Nat) : List Char :=
  let byte (i : Nat) := Nat.toDigits 10 (address / Nat.pow 256 i % 256)
  Text.joinWith ['.'] [byte 3, byte 2, byte 1, byte 0]

def dottedGroups? (cs : List Char) : Option (List Nat) := do
  let parts := Text.splitAtChar '.' cs
  let numbers ← parts.mapM fun part =>
    if part.isEmpty || !part.all Char.isDigit || (part.head? = some '0' && part ≠ ['0']) ||
      255 < Number.ofDigits part then none
    else some (Number.ofDigits part)
  match numbers with
  | [a, b, c, d] => some [256 * a + b, 256 * c + d]
  | _ => none

def group? (cs : List Char) : Option Nat :=
  if cs.isEmpty || 4 < cs.length then none else Number.ofRadix? 16 cs

/-- Groups between colons; where `dotted` allows it, the last may be four decimal numbers. -/
def groups? (dotted : Bool) : List (List Char) → Option (List Nat)
  | [] => some []
  | [cs] => if dotted && cs.contains '.' then dottedGroups? cs else (group? cs).map ([·])
  | cs :: pieces => do
    let n ← group? cs
    return n :: (← groups? dotted pieces)

def splitAtDoubleColon? : List Char → Option (List Char × List Char)
  | ':' :: ':' :: cs => some ([], cs)
  | c :: cs => (splitAtDoubleColon? cs).map fun (before, after) => (c :: before, after)
  | [] => none

def groupsOf? (dotted : Bool) (cs : List Char) : Option (List Nat) :=
  if cs.isEmpty then some [] else groups? dotted (Text.splitAtChar ':' cs)

def ipv6? (cs : List Char) : Option (List Nat) :=
  match splitAtDoubleColon? cs with
  | none => do
    let groups ← groupsOf? true cs
    if groups.length = 8 then some groups else none
  | some (before, after) => do
    let lead ← groupsOf? false before
    let rest ← groupsOf? true after
    if lead.length + rest.length < 8 then
      some (lead ++ List.replicate (8 - lead.length - rest.length) 0 ++ rest)
    else none

def longestZeros (groups : List Nat) : Nat × Nat :=
  let runs := (List.range groups.length).map fun i =>
    (i, ((groups.drop i).takeWhile (· = 0)).length)
  runs.foldl (fun best run => if best.2 < run.2 then run else best) (0, 0)

def ipv6Text (groups : List Nat) : List Char :=
  let hex (ns : List Nat) := Text.joinWith [':'] (ns.map (Nat.toDigits 16))
  let (start, count) := longestZeros groups
  if count < 2 then hex groups
  else hex (groups.take start) ++ [':', ':'] ++ hex (groups.drop (start + count))

def Host.toText : Host → List Char
  | name cs => cs
  | ipv4 address => ipv4Text address
  | ipv6 groups => '[' :: (ipv6Text groups ++ [']'])

def isForbidden (c : Char) : Bool :=
  isControl c || c = ' ' || c = '#' || c = '/' || c = ':' || c = '<' || c = '>' || c = '?' ||
    c = '@' || c = '[' || c = '\\' || c = ']' || c = '^' || c = '|' || c = '%'

def domain? (bytes : List UInt8) : Option (List Char) := do
  let cs ← Name.ascii? (← Text.decodeStrict? bytes)
  if cs.any isForbidden then none else some cs

def bracketed (cs : List Char) : Except UrlError Host :=
  match Text.beforeEnd? [']'] cs with
  | none => .error .invalidIpv6
  | some inner =>
    match ipv6? inner with
    | some groups => .ok (.ipv6 groups)
    | none => .error .invalidIpv6

def Host.ofDomain (cs : List Char) : Except UrlError Host :=
  match cs with
  | '[' :: rest => bracketed rest
  | cs =>
    match domain? (percentDecode cs) with
    | none => .error .invalidDomain
    | some [] => .error .emptyHost
    | some cs =>
      if endsInNumber cs then
        match ipv4? cs with
        | some address => .ok (.ipv4 address)
        | none => .error .invalidIpv4
      else .ok (.name cs)

def Host.ofPlain (cs : List Char) : Except UrlError Host :=
  match cs with
  | '[' :: rest => bracketed rest
  | cs =>
    if cs.any fun c => c = '\x00' || (isForbidden c && !isControl c && c ≠ '%') then
      .error .invalidHostCharacter
    else .ok (.name (percentEncode isControl cs))

end Url

end ActionBridge
