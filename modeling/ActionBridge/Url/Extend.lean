import ActionBridge.Url.Segment

namespace ActionBridge.Url

def withoutFinalEmpty (segments : List (List Char)) : List (List Char) :=
  if 2 ≤ segments.length && segments.getLast? = some [] then segments.dropLast else segments

/-- The segments after one more piece. Single and double dots are passed over, and the root alone
gives way to the piece. -/
def pushSegment (kind : SchemeKind) (segments : List (List Char)) (piece : List Char) :
    List (List Char) :=
  if piece = ['.'] || piece = ['.', '.'] then segments
  else
    let isFile := kind = .file
    let base := if segments = [[]] then [] else segments
    settle isFile (addPiece isFile (percentEncode (inSegment kind.isSpecial)) base piece true)

def appendSegments? (u : Url) (pieces : List String) : Option Url :=
  match u.path with
  | .rootless _ => none
  | .segments segments =>
    let pushed := (pieces.map String.toList).foldl (pushSegment (schemeKind u.scheme))
      (withoutFinalEmpty segments)
    some { u with path := .segments pushed }

def pairText (pair : String × String) : List Char :=
  formEncode pair.1.toList ++ '=' :: formEncode pair.2.toList

def appendPairs (u : Url) (pairs : List (String × String)) : Url :=
  let held := match u.query with
    | some (c :: cs) => [c :: cs]
    | _ => []
  { u with query := some (Text.joinWith ['&'] (held ++ pairs.map pairText)) }

end ActionBridge.Url
