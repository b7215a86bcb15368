import ActionBridge.Number.Basic

namespace ActionBridge.Number

def digitValue (c : Char) : Nat :=
  c.toNat - '0'.toNat

def ofDigits (ds : List Char) : Nat :=
  ds.foldl (fun n c => 10 * n + digitValue c) 0

def takeSign : List Char → Bool × List Char
  | '-' :: cs => (true, cs)
  | '+' :: cs => (false, cs)
  | cs => (false, cs)

def naturalUpTo? (bound : Nat) (cs : List Char) : Option Nat :=
  let ds := match cs with
    | '+' :: ds => ds
    | ds => ds
  if ds.isEmpty || !ds.all Char.isDigit || bound < ofDigits ds then none
  else some (ofDigits ds)

def signed? (cs : List Char) : Option Int :=
  let (negative, ds) := takeSign cs
  let n : Int := if negative then -(ofDigits ds : Int) else ofDigits ds
  if ds.isEmpty || !ds.all Char.isDigit || n < minSigned || maxSigned < n then none else some n

def decimalValue (negative : Bool) (ds : List Char) (e : Int) : Binary64 :=
  let m := ofDigits ds
  let size := (Nat.toDigits 10 m).length + e
  if m = 0 || size < -400 then .zero negative
  else if 400 < size then .ofMagnitude negative Binary64.infinity
  else
    let (num, den) := Binary64.scaled 10 m e
    .ofQuotient negative num den

def exponentPart? (cs : List Char) : Option Int :=
  match cs with
  | [] => some 0
  | e :: cs =>
    let (negative, ds) := takeSign cs
    if (e = 'e' || e = 'E') && !ds.isEmpty && ds.all Char.isDigit then
      some (if negative then -(ofDigits ds : Int) else ofDigits ds)
    else
      none

def decimal? (negative : Bool) (cs : List Char) : Option Binary64 :=
  let whole := cs.takeWhile Char.isDigit
  let rest := cs.dropWhile Char.isDigit
  let (places, rest) := match rest with
    | '.' :: rest => (rest.takeWhile Char.isDigit, rest.dropWhile Char.isDigit)
    | rest => ([], rest)
  if whole.isEmpty && places.isEmpty then none
  else (exponentPart? rest).map fun e => decimalValue negative (whole ++ places) (e - places.length)

def floating? (cs : List Char) : Option Binary64 :=
  let (negative, body) := takeSign cs
  let word := body.map Char.toLower
  if word = ['i', 'n', 'f'] || word = "infinity".toList then
    some (.ofMagnitude negative Binary64.infinity)
  else if word = ['n', 'a', 'n'] then some (.ofMagnitude negative (Binary64.infinity + Nat.pow 2 51))
  else decimal? negative body

structure Significand where
  value : Nat
  taken : Nat
  left : Nat

def Significand.collect (s : Significand) : List Char → Significand
  | [] => s
  | c :: cs =>
    if Nat.pow 2 64 ≤ 10 * s.value + digitValue c then { s with left := cs.length + 1 }
    else Significand.collect { s with value := 10 * s.value + digitValue c, taken := s.taken + 1 } cs

def powerOfTen (n : Nat) : Binary64 :=
  .ofQuotient false (Nat.pow 10 n) 1

/-- Moves the point of a collected significand by one multiplication or division; a number too
large to be finite has no value, and one too small is zero. -/
def movePoint? (negative : Bool) (significand : Nat) (e : Int) : Option Number :=
  let x := Binary64.ofQuotient false significand 1
  let signed (y : Binary64) : Option Number :=
    if y.isFinite then some (.float (.ofMagnitude negative y.magnitude)) else none
  if significand = 0 then signed x
  else if 308 < e then none
  else if 0 ≤ e then signed (x * powerOfTen e.toNat)
  else if -308 ≤ e then signed (x / powerOfTen (-e).toNat)
  else if -616 ≤ e then signed (x / powerOfTen 308 / powerOfTen (-e - 308).toNat)
  else signed (.zero false)

def readExponent? (negative : Bool) (significand : Nat) (start : Int) (cs : List Char) :
    Option (Number × List Char) :=
  let (down, cs) := takeSign cs
  let ds := cs.takeWhile Char.isDigit
  let rest := cs.dropWhile Char.isDigit
  let e := ofDigits ds
  if ds.isEmpty then none
  else if Nat.pow 2 31 ≤ e then
    if significand ≠ 0 && !down then none else some (.float (.zero negative), rest)
  else
    (movePoint? negative significand (if down then start - e else start + e)).map (·, rest)

def finish? (negative : Bool) (significand : Nat) (e : Int) (cs : List Char) :
    Option (Number × List Char) :=
  match cs with
  | 'e' :: cs => readExponent? negative significand e cs
  | 'E' :: cs => readExponent? negative significand e cs
  | cs => (movePoint? negative significand e).map (·, cs)

/-- A numeral without its sign, with what follows it. A leading zero stands alone, and without a
point or an exponent a numeral that fits is an integer. -/
def readUnsigned? (negative : Bool) (cs : List Char) : Option (Number × List Char) :=
  let ds := cs.takeWhile Char.isDigit
  let rest := cs.dropWhile Char.isDigit
  let s := Significand.collect ⟨0, 0, 0⟩ ds
  match ds, rest with
  | [], _ => none
  | '0' :: _ :: _, _ => none
  | _, '.' :: rest =>
    let places := rest.takeWhile Char.isDigit
    let t := Significand.collect ⟨s.value, 0, 0⟩ places
    if places.isEmpty then none
    else finish? negative t.value (s.left - t.taken) (rest.dropWhile Char.isDigit)
  | _, rest =>
    let ends := match rest with
      | 'e' :: _ => false
      | 'E' :: _ => false
      | _ => true
    if ends && s.left = 0 && !(negative && (s.value = 0 || Nat.pow 2 63 < s.value)) then
      some (.int (if negative then -(s.value : Int) else s.value), rest)
    else
      finish? negative s.value s.left rest

def read? : List Char → Option (Number × List Char)
  | '-' :: cs => readUnsigned? true cs
  | cs => readUnsigned? false cs

end ActionBridge.Number
