
namespace ActionBridge.Text

def extendFirst (c : Char) : List (List Char) → List (List Char)
  | [] => [[c]]
  | piece :: pieces => (c :: piece) :: pieces

def splitAtChar (separator : Char) : List Char → List (List Char)
  | [] => [[]]
  | c :: cs =>
    if c = separator then [] :: splitAtChar separator cs
    else extendFirst c (splitAtChar separator cs)

/-- The pieces between the occurrences of a text that starts with `s` and goes on with `separator`,
looked for from left to right without overlap. -/
def splitAtText (s : Char) (separator : List Char) : List Char → List (List Char)
  | [] => [[]]
  | c :: cs =>
    if (s :: separator).isPrefixOf (c :: cs) then
      [] :: splitAtText s separator (cs.drop separator.length)
    else
      extendFirst c (splitAtText s separator cs)
termination_by cs => cs.length
decreasing_by
  · simp only [List.length_drop, List.length_cons]; omega
  · simp

def joinWith (separator : List Char) : List (List Char) → List Char
  | [] => []
  | [piece] => piece
  | piece :: pieces => piece ++ separator ++ joinWith separator pieces

def joinTexts (separator : String) (texts : List String) : String :=
  String.ofList (joinWith separator.toList (texts.map String.toList))

def afterStart? (start cs : List Char) : Option (List Char) :=
  if start.isPrefixOf cs then some (cs.drop start.length) else none

def beforeEnd? (final cs : List Char) : Option (List Char) :=
  (afterStart? final.reverse cs.reverse).map List.reverse

def occursIn (text : List Char) : List Char → Bool
  | [] => text.isEmpty
  | c :: cs => text.isPrefixOf (c :: cs) || occursIn text cs

end ActionBridge.Text
