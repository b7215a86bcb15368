import ActionBridge.Url.Basic

namespace ActionBridge.Url

def isDot (cs : List Char) : Bool :=
  let cs := cs.map Char.toLower
  cs = ['.'] || cs = "%2e".toList

def isDoubleDot (cs : List Char) : Bool :=
  let cs := cs.map Char.toLower
  cs = ['.', '.'] || cs = ".%2e".toList || cs = "%2e.".toList || cs = "%2e%2e".toList

def isDriveLetter : List Char → Bool
  | [c, d] => c.isAlpha && (d = ':' || d = '|')
  | _ => false

/-- The segments without the last one, unless it is a drive letter. -/
def goBack (segments : List (List Char)) : List (List Char) :=
  match segments.getLast? with
  | some last => if isDriveLetter last then segments else segments.dropLast
  | none => []

def rootForm (isFile : Bool) (segments : List (List Char)) (cs : List Char) : List Char :=
  if isFile && segments.isEmpty && isDriveLetter cs then cs.take 1 ++ [':'] else cs

def isBreak (c : Char) : Bool :=
  c = '\t' || c = '\n' || c = '\r'

def withoutBreaks (cs : List Char) : List Char :=
  cs.filter (!isBreak ·)

def cutDrive? (piece : List Char) : Option (List Char × List Char) :=
  match piece.dropWhile isBreak with
  | c :: cs =>
    match cs.dropWhile isBreak with
    | ':' :: b :: rest =>
      let rest := withoutBreaks rest
      if c.isAlpha && isBreak b && !rest.isEmpty then some ([c, ':'], rest) else none
    | _ => none
  | [] => none

/-- The segments after one more piece, which `encode` makes ready to be written out; `isLast` tells
that no slash follows it. At the root of a file system what is cut off from a drive letter is a
segment of its own, dots or not. -/
def addPiece (isFile : Bool) (encode : List Char → List Char) (segments : List (List Char))
    (piece : List Char) (isLast : Bool) : List (List Char) :=
  let final := if isLast then [[]] else []
  let text := encode (withoutBreaks piece)
  match if isFile && segments.isEmpty then cutDrive? piece else none with
  | some (drive, rest) => [drive, encode rest]
  | none =>
    if isDoubleDot text then goBack segments ++ final
    else if isDot text then segments ++ final
    else segments ++ [rootForm isFile segments text]

def addPieces (isFile : Bool) (encode : List Char → List Char) (segments : List (List Char)) :
    List (List Char) → List (List Char)
  | [] => segments
  | [piece] => addPiece isFile encode segments piece true
  | piece :: pieces =>
    addPieces isFile encode (addPiece isFile encode segments piece false) pieces

def reachesDrive (encode : List Char → List Char) (segments : List (List Char)) :
    List (List Char) → Bool
  | [] => false
  | piece :: pieces =>
    (segments.isEmpty && (cutDrive? piece).isNone && isDriveLetter (withoutBreaks piece)) ||
      reachesDrive encode (addPiece true encode segments piece false) pieces

def dropLeadingEmpty : List (List Char) → List (List Char)
  | [] => [[]]
  | [] :: segments => dropLeadingEmpty segments
  | segments => segments

def settle (isFile : Bool) (segments : List (List Char)) : List (List Char) :=
  if isFile then dropLeadingEmpty segments else segments

end ActionBridge.Url
