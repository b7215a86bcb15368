import ActionBridge.Url.Host

namespace ActionBridge

namespace Url

inductive SchemeKind where
  | file
  | special (port : Nat)
  | plain
deriving DecidableEq, Repr

def schemeKind (scheme : String) : SchemeKind :=
  match scheme with
  | "file" => .file
  | "http" => .special 80
  | "https" => .special 443
  | "ws" => .special 80
  | "wss" => .special 443
  | "ftp" => .special 21
  | _ => .plain

def SchemeKind.isSpecial : SchemeKind → Bool
  | plain => false
  | _ => true

structure Authority where
  userInfo : List Char
  host : Option Host
  port : Option Nat
deriving DecidableEq, Repr

inductive UrlPath where
  | rootless (text : List Char)
  | segments (list : List (List Char))
deriving DecidableEq, Repr

end Url

/-- A URL without an authority whose path started with two slashes is kept apart from those that
have one by a dot segment. -/
structure Url where
  scheme : String
  authority : Option Url.Authority
  isKeptApart : Bool
  path : Url.UrlPath
  query : Option (List Char)
  fragment : Option (List Char)
deriving DecidableEq, Repr

namespace Url

def Authority.toText (a : Authority) : List Char :=
  let user := if a.userInfo.isEmpty then [] else a.userInfo ++ ['@']
  let host := match a.host with
    | some h => h.toText
    | none => []
  let port := match a.port with
    | some p => ':' :: Nat.toDigits 10 p
    | none => []
  user ++ host ++ port

def UrlPath.toText : UrlPath → List Char
  | rootless text => text
  | segments list => list.flatMap ('/' :: ·)

def UrlPath.startsEmpty : UrlPath → Bool
  | segments ([] :: _ :: _) => true
  | _ => false

def beforePath (u : Url) : List Char :=
  match u.authority with
  | some a => '/' :: '/' :: a.toText
  | none => if u.isKeptApart then ['/', '.'] else []

def toText (u : Url) : String :=
  let query := match u.query with
    | some q => '?' :: q
    | none => []
  let fragment := match u.fragment with
    | some f => '#' :: f
    | none => []
  String.ofList
    (u.scheme.toList ++ ':' :: (u.beforePath ++ u.path.toText ++ query ++ fragment))

end Url

end ActionBridge
