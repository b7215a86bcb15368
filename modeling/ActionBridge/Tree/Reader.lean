import ActionBridge.Tree.Basic
import ActionBridge.Number.Numeral
import ActionBridge.Number.Radix
/-!
Trees read from JSON text. Containers may be nested 127 deep; a key that is repeated keeps its
first place and takes its last value.
-/

namespace ActionBridge.Tree

namespace Reader

def isSpace (c : Char) : Bool :=
  c = ' ' || c = '\n' || c = '\t' || c = '\r'

def skipSpace (cs : List Char) : List Char :=
  cs.dropWhile isSpace

def hexUnit? : List Char → Option (Nat × List Char)
  | a :: b :: c :: d :: rest => (Number.ofRadix? 16 [a, b, c, d]).map (·, rest)
  | _ => none

/-- The character of an escape after its backslash. A high surrogate must be followed by the escape
of a low one, and a low one cannot stand alone. -/
def escaped? : List Char → Option (Char × List Char)
  | '"' :: cs => some ('"', cs)
  | '\\' :: cs => some ('\\', cs)
  | '/' :: cs => some ('/', cs)
  | 'b' :: cs => some ('\x08', cs)
  | 'f' :: cs => some ('\x0c', cs)
  | 'n' :: cs => some ('\n', cs)
  | 'r' :: cs => some ('\r', cs)
  | 't' :: cs => some ('\t', cs)
  | 'u' :: cs => do
    let (n, cs) ← hexUnit? cs
    if 0xDC00 ≤ n && n ≤ 0xDFFF then none
    else if 0xD800 ≤ n && n ≤ 0xDBFF then
      match cs with
      | '\\' :: 'u' :: cs =>
        let (m, cs) ← hexUnit? cs
        if 0xDC00 ≤ m && m ≤ 0xDFFF then
          some (Char.ofNat (0x10000 + (n - 0xD800) * 0x400 + (m - 0xDC00)), cs)
        else none
      | _ => none
    else some (Char.ofNat n, cs)
  | _ => none

def stringBody? : Nat → List Char → Option (List Char × List Char)
  | 0, _ => none
  | fuel + 1, cs =>
    match cs with
    | [] => none
    | '"' :: rest => some ([], rest)
    | '\\' :: rest => do
      let (c, rest) ← escaped? rest
      let (s, rest) ← stringBody? fuel rest
      return (c :: s, rest)
    | c :: rest =>
      if c.toNat < 0x20 then none
      else do
        let (s, rest) ← stringBody? fuel rest
        return (c :: s, rest)

def string? (cs : List Char) : Option (String × List Char) :=
  (stringBody? (cs.length + 1) cs).map fun (s, rest) => (String.ofList s, rest)

def key? (cs : List Char) : Option (String × List Char) :=
  match skipSpace cs with
  | '"' :: cs => do
    let (k, cs) ← string? cs
    match skipSpace cs with
    | ':' :: cs => some (k, cs)
    | _ => none
  | _ => none

def items? (item : List Char → Option (Tree × List Char)) :
    Nat → List Char → Option (List Tree × List Char)
  | 0, _ => none
  | fuel + 1, cs => do
    let (t, cs) ← item cs
    match skipSpace cs with
    | ',' :: cs =>
      let (ts, cs) ← items? item fuel cs
      return (t :: ts, cs)
    | ']' :: cs => return ([t], cs)
    | _ => none

def entries? (item : List Char → Option (Tree × List Char)) :
    Nat → List Char → Option (List (String × Tree) × List Char)
  | 0, _ => none
  | fuel + 1, cs => do
    let (k, cs) ← key? cs
    let (t, cs) ← item cs
    match skipSpace cs with
    | ',' :: cs =>
      let (es, cs) ← entries? item fuel cs
      return ((k, t) :: es, cs)
    | '\x7d' :: cs => return ([(k, t)], cs)
    | _ => none

def value? : Nat → List Char → Option (Tree × List Char)
  | depth, cs =>
    match skipSpace cs with
    | 'n' :: 'u' :: 'l' :: 'l' :: cs => some (.null, cs)
    | 't' :: 'r' :: 'u' :: 'e' :: cs => some (.bool true, cs)
    | 'f' :: 'a' :: 'l' :: 's' :: 'e' :: cs => some (.bool false, cs)
    | '"' :: cs => (string? cs).map fun (s, cs) => (.text s, cs)
    | '[' :: cs =>
      match depth with
      | 0 => none
      | depth + 1 =>
        match skipSpace cs with
        | ']' :: cs => some (.sequence [], cs)
        | cs => (items? (value? depth) (cs.length + 1) cs).map fun (ts, cs) => (.sequence ts, cs)
    | '\x7b' :: cs =>
      match depth with
      | 0 => none
      | depth + 1 =>
        match skipSpace cs with
        | '\x7d' :: cs => some (.mapping [], cs)
        | cs =>
          (entries? (value? depth) (cs.length + 1) cs).map fun (es, cs) =>
            (.mapping (Entries.ofList es), cs)
    | cs => (Number.read? cs).map fun (n, cs) => (.number n, cs)

def maxDepth : Nat := 127

end Reader

def read? (s : String) : Option Tree :=
  match Reader.value? Reader.maxDepth s.toList with
  | some (t, rest) => if (Reader.skipSpace rest).isEmpty then some t else none
  | none => none

end ActionBridge.Tree
