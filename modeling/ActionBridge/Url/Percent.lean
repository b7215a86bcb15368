import ActionBridge.Number.Radix
import ActionBridge.Text.Utf8

namespace ActionBridge.Url

def upperHexDigit (n : Nat) : Char :=
  if n < 10 then Char.ofNat (0x30 + n) else Char.ofNat (0x41 + (n - 10))

def percentByte (b : UInt8) : List Char :=
  ['%', upperHexDigit (b.toNat / 16), upperHexDigit (b.toNat % 16)]

def percentChar (c : Char) : List Char :=
  (String.utf8EncodeChar c).flatMap percentByte

def percentEncode (escaped : Char → Bool) (cs : List Char) : List Char :=
  cs.flatMap fun c => if c.toNat < 128 && !escaped c then [c] else percentChar c

def hexByte? (a b : Char) : Option UInt8 := do
  return UInt8.ofNat (16 * (← Number.hexDigit? a) + (← Number.hexDigit? b))

/-- The bytes of a text; a percent sign without two hexadecimal digits stands for itself. -/
def percentDecode : List Char → List UInt8
  | [] => []
  | '%' :: a :: b :: cs =>
    match hexByte? a b with
    | some byte => byte :: percentDecode cs
    | none => String.utf8EncodeChar '%' ++ percentDecode (a :: b :: cs)
  | c :: cs => String.utf8EncodeChar c ++ percentDecode cs

def isControl (c : Char) : Bool :=
  c.toNat < 0x20 || c.toNat = 0x7F

def inFragment (c : Char) : Bool :=
  isControl c || c = ' ' || c = '"' || c = '<' || c = '>' || c = '\x60'

def inPath (c : Char) : Bool :=
  inFragment c || c = '#' || c = '?' || c = '\x7b' || c = '\x7d'

def inUserInfo (c : Char) : Bool :=
  inPath c || c = '/' || c = ':' || c = ';' || c = '=' || c = '@' || c = '[' || c = '\\' ||
    c = ']' || c = '^' || c = '|'

def inSegment (special : Bool) (c : Char) : Bool :=
  inPath c || c = '/' || c = '%' || (special && c = '\\')

def inQuery (special : Bool) (c : Char) : Bool :=
  isControl c || c = ' ' || c = '"' || c = '#' || c = '<' || c = '>' || (special && c = '\'')

def isFormPlain (c : Char) : Bool :=
  c.isAlphanum || c = '*' || c = '-' || c = '.' || c = '_'

def formEncode (cs : List Char) : List Char :=
  cs.flatMap fun c => if c = ' ' then ['+'] else if isFormPlain c then [c] else percentChar c

end ActionBridge.Url
