import ActionBridge.Tree.Basic

namespace ActionBridge.Tree

def hexDigit (n : Nat) : Char :=
  (Nat.toDigits 16 (n % 16)).headD '0'

def jsonChar (c : Char) : List Char :=
  match c with
  | '"' => ['\\', '"']
  | '\\' => ['\\', '\\']
  | '\x08' => ['\\', 'b']
  | '\x0c' => ['\\', 'f']
  | '\n' => ['\\', 'n']
  | '\r' => ['\\', 'r']
  | '\t' => ['\\', 't']
  | c => if c.toNat < 0x20 then ['\\', 'u', '0', '0', hexDigit (c.toNat / 16), hexDigit c.toNat] else [c]

def jsonString (s : String) : List Char :=
  '"' :: (s.toList.flatMap jsonChar ++ ['"'])

mutual

def compact : Tree → List Char
  | null => "null".toList
  | bool true => "true".toList
  | bool false => "false".toList
  | number n => n.toText
  | text s => jsonString s
  | sequence items => '[' :: (compactItems items ++ [']'])
  | mapping entries => '\x7b' :: (compactEntries entries ++ ['\x7d'])

def compactItems : List Tree → List Char
  | [] => []
  | [t] => compact t
  | t :: ts => compact t ++ ',' :: compactItems ts

def compactEntries : List (String × Tree) → List Char
  | [] => []
  | [(k, t)] => jsonString k ++ ':' :: compact t
  | (k, t) :: entries => jsonString k ++ ':' :: compact t ++ ',' :: compactEntries entries

end

def toText (t : Tree) : String :=
  String.ofList t.compact

def plainText : Tree → String
  | text s => s
  | t => t.toText

def lineBreak (level : Nat) : List Char :=
  '\n' :: List.replicate (2 * level) ' '

mutual

def pretty (level : Nat) : Tree → List Char
  | sequence [] => ['[', ']']
  | sequence (t :: ts) => '[' :: (prettyItems (level + 1) (t :: ts) ++ lineBreak level ++ [']'])
  | mapping [] => ['\x7b', '\x7d']
  | mapping ((k, t) :: entries) =>
    '\x7b' :: (prettyEntries (level + 1) ((k, t) :: entries) ++ lineBreak level ++ ['\x7d'])
  | leaf => compact leaf

def prettyItems (level : Nat) : List Tree → List Char
  | [] => []
  | [t] => lineBreak level ++ pretty level t
  | t :: ts => lineBreak level ++ pretty level t ++ ',' :: prettyItems level ts

def prettyEntries (level : Nat) : List (String × Tree) → List Char
  | [] => []
  | [(k, t)] => lineBreak level ++ jsonString k ++ ':' :: ' ' :: pretty level t
  | (k, t) :: entries =>
    lineBreak level ++ jsonString k ++ ':' :: ' ' :: pretty level t ++ ',' ::
      prettyEntries level entries

end

def toPrettyText (t : Tree) : String :=
  String.ofList (t.pretty 0)

end ActionBridge.Tree
