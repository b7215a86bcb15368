import ActionBridge.Tree.Reader
/-!
Documents read for the sake of some of their fields. What no one asks for is passed over without a
look at the worth of its numbers and strings. The first fault counts, of spelling or of shape, and
nothing behind it is read.
-/

namespace ActionBridge

/-- What a document is expected to be. A record has fields that must be there and fields that may
be left out; a mapping without names for its entries can hold any. -/
inductive Schema where
  | any
  | mapping
  | record (required optional : List (String × Schema))

inductive DocumentFault where
  | malformed
  | wrongShape
deriving DecidableEq, Repr

namespace Schema

abbrev Rest := List Char

def orMalformed {α : Type} : Option α → Except DocumentFault α
  | some a => .ok a
  | none => .error .malformed

def passString? : List Char → Option Rest
  | [] => none
  | '"' :: cs => some cs
  | '\\' :: 'u' :: a :: b :: c :: d :: cs =>
    if (Number.ofRadix? 16 [a, b, c, d]).isSome then passString? cs else none
  | '\\' :: c :: cs => if c ∈ "\"\\/bfnrt".toList then passString? cs else none
  | c :: cs => if c = '\\' || c.toNat < 0x20 then none else passString? cs

def passDigits? (cs : List Char) : Option Rest :=
  if (cs.takeWhile Char.isDigit).isEmpty then none else some (cs.dropWhile Char.isDigit)

def passExponent? : List Char → Option Rest
  | c :: cs =>
    if c = 'e' || c = 'E' then
      match cs with
      | '+' :: cs => passDigits? cs
      | '-' :: cs => passDigits? cs
      | cs => passDigits? cs
    else some (c :: cs)
  | [] => some []

def passNumeral? (cs : List Char) : Option Rest := do
  let whole := match cs with
    | '-' :: cs => cs
    | cs => cs
  let cs ← passDigits? whole
  if whole.head? = some '0' && (whole.takeWhile Char.isDigit).length ≠ 1 then none
  else
    match cs with
    | '.' :: cs => passExponent? (← passDigits? cs)
    | cs => passExponent? cs

mutual

/-- What follows a value, however deep it is; the fuel is twice the length of the text. -/
def pass? : Nat → List Char → Option Rest
  | 0, _ => none
  | fuel + 1, cs =>
    match Tree.Reader.skipSpace cs with
    | 'n' :: 'u' :: 'l' :: 'l' :: cs => some cs
    | 't' :: 'r' :: 'u' :: 'e' :: cs => some cs
    | 'f' :: 'a' :: 'l' :: 's' :: 'e' :: cs => some cs
    | '"' :: cs => passString? cs
    | '[' :: cs =>
      match Tree.Reader.skipSpace cs with
      | ']' :: cs => some cs
      | cs => passItems? fuel cs
    | '\x7b' :: cs =>
      match Tree.Reader.skipSpace cs with
      | '\x7d' :: cs => some cs
      | cs => passEntries? fuel cs
    | cs => passNumeral? cs

def passItems? : Nat → List Char → Option Rest
  | 0, _ => none
  | fuel + 1, cs => do
    let cs ← pass? fuel cs
    match Tree.Reader.skipSpace cs with
    | ',' :: cs => passItems? fuel cs
    | ']' :: cs => some cs
    | _ => none

def passEntries? : Nat → List Char → Option Rest
  | 0, _ => none
  | fuel + 1, cs => do
    let cs ← match Tree.Reader.skipSpace cs with
      | '"' :: cs => passString? cs
      | _ => none
    let cs ← match Tree.Reader.skipSpace cs with
      | ':' :: cs => pass? fuel cs
      | _ => none
    match Tree.Reader.skipSpace cs with
    | ',' :: cs => passEntries? fuel cs
    | '\x7d' :: cs => some cs
    | _ => none

end

def passPair? (cs : List Char) : Option Rest :=
  match Tree.Reader.skipSpace cs with
  | ':' :: cs => pass? (2 * cs.length + 2) cs
  | _ => none

abbrev ValueReader := List Char → Except DocumentFault (Tree × Rest)

def entryValue (read : ValueReader) (cs : List Char) : Except DocumentFault (Tree × Rest) :=
  match Tree.Reader.skipSpace cs with
  | ':' :: cs => read cs
  | _ => .error .malformed

def otherKind (cs : List Char) : DocumentFault :=
  match Tree.Reader.skipSpace cs with
  | '[' :: _ => .wrongShape
  | '\x7b' :: _ => .wrongShape
  | cs => if (Tree.Reader.value? 0 cs).isSome then .wrongShape else .malformed

/-- The fields among the entries up to the closing brace, after those that are held already. A
field that comes again is refused as soon as its name is read. -/
def entries (field : String → Option ValueReader) :
    Nat → Entries → List Char → Except DocumentFault (Entries × Rest)
  | 0, _, _ => .error .malformed
  | fuel + 1, held, cs => do
    let (name, cs) ← match Tree.Reader.skipSpace cs with
      | '"' :: cs => orMalformed (Tree.Reader.string? cs)
      | _ => .error .malformed
    let (held, cs) ← match field name with
      | none => (orMalformed (passPair? cs)).map (held, ·)
      | some read =>
        if held.any (·.1 = name) then .error .wrongShape
        else (entryValue read cs).map fun (t, cs) => (held ++ [(name, t)], cs)
    match Tree.Reader.skipSpace cs with
    | ',' :: cs => entries field fuel held cs
    | '\x7d' :: cs => return (held, cs)
    | _ => .error .malformed

def laterItems :
    List (String × ValueReader) → List Char → Except DocumentFault (Entries × Rest)
  | [], cs =>
    match Tree.Reader.skipSpace cs with
    | ']' :: cs => .ok ([], cs)
    | _ => .error .malformed
  | (name, read) :: fields, cs =>
    match Tree.Reader.skipSpace cs with
    | ']' :: cs => .ok ([], cs)
    | ',' :: cs =>
      match Tree.Reader.skipSpace cs with
      | ']' :: _ => .error .malformed
      | cs => do
        let (t, cs) ← read cs
        let (held, cs) ← laterItems fields cs
        return ((name, t) :: held, cs)
    | _ => .error .malformed

def items (fields : List (String × ValueReader)) (cs : List Char) :
    Except DocumentFault (Entries × Rest) :=
  match Tree.Reader.skipSpace cs, fields with
  | ']' :: cs, _ => .ok ([], cs)
  | _, [] => .error .malformed
  | cs, (name, read) :: fields => do
    let (t, cs) ← read cs
    let (held, cs) ← laterItems fields cs
    return ((name, t) :: held, cs)

def complete (required : List (String × Schema)) (held : Entries) : Except DocumentFault Tree :=
  if required.all fun (name, _) => held.any (·.1 = name) then .ok (.mapping held)
  else .error .wrongShape

def read : Nat → Schema → ValueReader
  | depth, any, cs => orMalformed (Tree.Reader.value? depth cs)
  | depth, mapping, cs =>
    match Tree.Reader.skipSpace cs with
    | '\x7b' :: _ => orMalformed (Tree.Reader.value? depth cs)
    | _ => .error (otherKind cs)
  | 0, record _ _, cs =>
    match Tree.Reader.skipSpace cs with
    | '[' :: _ => .error .malformed
    | '\x7b' :: _ => .error .malformed
    | cs => .error (otherKind cs)
  | depth + 1, record required optional, cs => do
    let fields := (required ++ optional).map fun (name, schema) => (name, schema.read depth)
    let (held, cs) ← match Tree.Reader.skipSpace cs with
      | '[' :: cs => items fields cs
      | '\x7b' :: cs =>
        match Tree.Reader.skipSpace cs with
        | '\x7d' :: cs => .ok ([], cs)
        | cs => entries (fields.lookup ·) (cs.length + 1) [] cs
      | cs => .error (otherKind cs)
    return (← complete required held, cs)

def readFirst (schema : Schema) (s : String) : Except DocumentFault Tree :=
  (schema.read Tree.Reader.maxDepth s.toList).map (·.1)

def readWhole (schema : Schema) (s : String) : Except DocumentFault Tree := do
  let (t, rest) ← schema.read Tree.Reader.maxDepth s.toList
  if (Tree.Reader.skipSpace rest).isEmpty then return t else throw .malformed

end Schema

end ActionBridge
