import ActionBridge.Url.Segment

namespace ActionBridge.Url

def trimmed (s : String) : List Char :=
  let outer (c : Char) : Bool := c.toNat ≤ 0x20
  let cs := (s.toList.dropWhile outer).reverse.dropWhile outer
  cs.reverse

def isSchemeChar (c : Char) : Bool :=
  c.isAlphanum || c = '+' || c = '-' || c = '.'

def scheme? (cs : List Char) : Option (String × List Char) :=
  match cs with
  | c :: _ =>
    if c.isAlpha then
      match cs.dropWhile isSchemeChar with
      | ':' :: rest => some (String.ofList ((cs.takeWhile isSchemeChar).map Char.toLower), rest)
      | _ => none
    else none
  | [] => none

def isSlash (special : Bool) (c : Char) : Bool :=
  c = '/' || (special && c = '\\')

def endsAuthority (special : Bool) (c : Char) : Bool :=
  isSlash special c || c = '?' || c = '#'

def userInfoText (cs : List Char) : List Char :=
  let user := percentEncode inUserInfo (cs.takeWhile (· ≠ ':'))
  let secret := percentEncode inUserInfo ((cs.dropWhile (· ≠ ':')).drop 1)
  if secret.isEmpty then user else user ++ ':' :: secret

def splitAtLastAt (cs : List Char) : Option (List Char) × List Char :=
  let tail := (cs.reverse.takeWhile (· ≠ '@')).reverse
  if tail.length = cs.length then (none, cs)
  else (some (cs.take (cs.length - tail.length - 1)), tail)

def hostPart (inBrackets : Bool) : List Char → List Char × List Char
  | [] => ([], [])
  | c :: cs =>
    if c = ':' && !inBrackets then ([], c :: cs)
    else
      let inner := if c = '[' then true else if c = ']' then false else inBrackets
      let (host, rest) := hostPart inner cs
      (c :: host, rest)

def port (default : Option Nat) (cs : List Char) : Except UrlError (Option Nat) :=
  if cs.isEmpty then .ok none
  else if !cs.all Char.isDigit || 65535 < Number.ofDigits cs then .error .invalidPort
  else if default = some (Number.ofDigits cs) then .ok none
  else .ok (some (Number.ofDigits cs))

def cut (stops : Char → Bool) (cs : List Char) : List Char × List Char :=
  (cs.takeWhile (!stops ·), cs.dropWhile (!stops ·))

def endings (special : Bool) (cs : List Char) : Option (List Char) × Option (List Char) :=
  let fragmentOf (cs : List Char) : Option (List Char) :=
    match cs with
    | '#' :: cs => some (percentEncode inFragment cs)
    | _ => none
  match cs with
  | '?' :: cs =>
    let (query, rest) := cut (· = '#') cs
    (some (percentEncode (inQuery special) query), fragmentOf rest)
  | cs => (none, fragmentOf cs)

def pieces (special : Bool) (cs : List Char) : List (List Char) :=
  Text.splitAtChar '/' (cs.map fun c => if isSlash special c then '/' else c)

def rootedPath (kind : SchemeKind) (cs : List Char) : UrlPath :=
  let isFile := kind = .file
  .segments (settle isFile
    (addPieces isFile (percentEncode inPath) [] (pieces kind.isSpecial cs)))

def pathAfterAuthority (kind : SchemeKind) (cs : List Char) : UrlPath :=
  match cs with
  | [] => if kind.isSpecial then .segments [[]] else .segments []
  | c :: rest =>
    if isSlash kind.isSpecial c then rootedPath kind rest else rootedPath kind (c :: rest)

def assemble (scheme : String) (kind : SchemeKind) (authority : Option Authority) (path : UrlPath)
    (rest : List Char) : Url :=
  let (query, fragment) := endings kind.isSpecial rest
  ⟨scheme, authority, authority.isNone && path.startsEmpty, path, query, fragment⟩

def beforeQuery (cs : List Char) : List Char × List Char :=
  cut (fun c => c = '?' || c = '#') cs

def ofHostName (kind : SchemeKind) (cs : List Char) : Except UrlError (Option Host) :=
  if kind.isSpecial then
    if cs.isEmpty then .error .emptyHost else (Host.ofDomain cs).map some
  else if cs.isEmpty then .ok none
  else (Host.ofPlain cs).map some

def afterSlashes (scheme : String) (kind : SchemeKind) (cs : List Char) : Except UrlError Url := do
  let (whole, rest) := cut (endsAuthority kind.isSpecial) cs
  let (user?, hostAndPort) := splitAtLastAt whole
  if user? = some [] && hostAndPort.isEmpty && !rest.isEmpty then throw .emptyHost
  let userInfo := userInfoText (user?.getD [])
  let (hostText, portText) := hostPart false hostAndPort
  let host ← ofHostName kind hostText
  if host.isNone && !portText.isEmpty then throw .emptyHost
  let default := match kind with
    | .special p => some p
    | _ => none
  let (portText, afterPort) := cut (· = '\\') (portText.drop 1)
  let port ← port default portText
  if host.isNone && !userInfo.isEmpty then throw .emptyHost
  let (pathText, rest) := beforeQuery (afterPort ++ rest)
  return assemble scheme kind (some ⟨userInfo, host, port⟩) (pathAfterAuthority kind pathText) rest

def afterSlash (cs : List Char) : List Char :=
  match cs.dropWhile isBreak with
  | c :: rest => if isSlash true c then rest else cs
  | [] => cs

def afterTwoSlashes? (cs : List Char) : Option (List Char) :=
  match cs.dropWhile isBreak with
  | c :: rest =>
    match rest.dropWhile isBreak with
    | d :: rest => if isSlash true c && isSlash true d then some rest else none
    | [] => none
  | [] => none

/-- The host of a file, and the text of its path after the root. A drive letter is no host, and the
local host is not written. Only a host takes up the slash behind it. -/
def fileHost (cs : List Char) : Except UrlError (Option Host × List Char) :=
  let (raw, rest) := cut (fun c => isSlash true c) cs
  let name := withoutBreaks raw
  if isDriveLetter name then .ok (none, cs)
  else if name.isEmpty then .ok (none, rest)
  else
    match Host.ofDomain name with
    | .error e => .error e
    | .ok host =>
      if host = .name "localhost".toList then .ok (none, rest) else .ok (some host, afterSlash rest)

/-- The URL of a file, of which the breaks are still there. A path that starts with a drive letter
has no host. -/
def fileUrl (scheme : String) (cs : List Char) : Except UrlError Url := do
  let (text, rest) := beforeQuery cs
  let (host, pathText) ←
    match afterTwoSlashes? text with
    | some cs => fileHost cs
    | none => .ok (none, afterSlash text)
  let host :=
    if reachesDrive (percentEncode inPath) [] (pieces true pathText) then none else host
  return assemble scheme .file (some ⟨[], host, none⟩) (rootedPath .file pathText)
    (withoutBreaks rest)

def plainUrl (scheme : String) (cs : List Char) : Except UrlError Url :=
  match cs with
  | '/' :: '/' :: cs => afterSlashes scheme .plain cs
  | '/' :: cs =>
    let (text, rest) := beforeQuery cs
    .ok (assemble scheme .plain none (rootedPath .plain text) rest)
  | cs =>
    let (text, rest) := beforeQuery cs
    .ok (assemble scheme .plain none (.rootless (percentEncode isControl text)) rest)

def parse (s : String) : Except UrlError Url :=
  match scheme? (withoutBreaks (trimmed s)) with
  | none => .error .missingScheme
  | some (scheme, cs) =>
    match schemeKind scheme with
    | .file => fileUrl scheme (((trimmed s).dropWhile (· ≠ ':')).drop 1)
    | .special p => afterSlashes scheme (.special p) (cs.dropWhile (isSlash true))
    | .plain => plainUrl scheme cs

end ActionBridge.Url
