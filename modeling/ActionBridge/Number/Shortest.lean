import ActionBridge.Number.Binary64
/-!
The decimal text of a floating point number: the fewest digits that read back as the same number,
and of those the nearest to it.
-/

namespace ActionBridge.Binary64

structure Decimal where
  digits : Nat
  exponent : Int
deriving DecidableEq, Repr

/-- Four times the mantissa with the bounds of the interval that reads back as the number, in
quarters of its last place. The gap below a power of two is half as wide. -/
def readBackBounds (x : Binary64) : Nat × Nat × Nat :=
  let m := 4 * x.mantissa
  let narrow := x.magnitude % Nat.pow 2 52 = 0 && Nat.pow 2 53 ≤ x.magnitude
  (m - (if narrow then 1 else 2), m, m + 2)

/-- Whether `digits` steps of the grid read back as the number; the ends of the interval do when
the mantissa is even. -/
def readsBack (x : Binary64) (num den : Nat) (digits : Nat) : Bool :=
  let (low, _, high) := x.readBackBounds
  let v := digits * den
  if x.mantissa % 2 = 0 then low * num ≤ v && v ≤ high * num
  else low * num < v && v < high * num

def onGrid? (x : Binary64) (k : Int) : Option Decimal :=
  let (a, b) := scaled 2 1 (x.exponent - 2)
  let (c, d) := scaled 10 1 k
  let num := a * d
  let den := b * c
  let v := 4 * x.mantissa * num
  let down := v / den
  let up := down + 1
  let below := v - down * den
  let above := up * den - v
  match x.readsBack num den down, x.readsBack num den up with
  | true, true =>
    if below < above || (below = above && down % 2 = 0) then some ⟨down, k⟩ else some ⟨up, k⟩
  | true, false => some ⟨down, k⟩
  | false, true => some ⟨up, k⟩
  | false, false => none

def leadingExponent (x : Binary64) : Int :=
  let guess := ((x.mantissa.log2 : Int) + x.exponent) * 1233 / 4096
  let reaches (e : Int) : Bool :=
    let (a, b) := scaled 2 x.mantissa x.exponent
    let (c, d) := scaled 10 1 e
    b * c ≤ a * d
  if reaches (guess + 1) then guess + 1 else if reaches guess then guess else guess - 1

def shortestFrom (x : Binary64) (lead : Int) : Nat → Nat → Decimal
  | 0, n => ⟨x.mantissa, lead - n⟩
  | fuel + 1, n =>
    match x.onGrid? (lead + 1 - n) with
    | some d => d
    | none => shortestFrom x lead fuel (n + 1)

/-- Seventeen digits always read back. -/
def shortest (x : Binary64) : Decimal :=
  shortestFrom x x.leadingExponent 17 1

def dropTrailingZeros (ds : List Char) : List Char :=
  (ds.reverse.dropWhile (· = '0')).reverse

def positional (ds : List Char) (position : Int) : List Char :=
  if position ≤ 0 then
    '0' :: '.' :: (List.replicate (-position).toNat '0' ++ ds)
  else
    let n := position.toNat
    let whole := ds.take n ++ List.replicate (n - ds.length) '0'
    let places := ds.drop n
    whole ++ '.' :: (if places.isEmpty then ['0'] else places)

def scientific (ds : List Char) (e : Int) : List Char :=
  let places := ds.drop 1
  let mark := 'e' :: (if e < 0 then '-' else '+') :: Nat.toDigits 10 e.natAbs
  ds.take 1 ++ (if places.isEmpty then [] else '.' :: places) ++ mark

/-- Exponents from -5 to 15 are written with a point, all others with an exponent. -/
def digitsText (d : Decimal) : List Char :=
  let ds := Nat.toDigits 10 d.digits
  let e := d.exponent + ds.length - 1
  let ds := dropTrailingZeros ds
  if -5 ≤ e && e < 16 then positional ds (e + 1) else scientific ds e

def toText (x : Binary64) : List Char :=
  let sign := if x.isNegative then ['-'] else []
  sign ++ if x.magnitude = 0 then ['0', '.', '0'] else digitsText x.shortest

end ActionBridge.Binary64
