
namespace ActionBridge

/-- A floating point number, told apart by its bits: the two zeros differ. -/
structure Binary64 where
  bits : UInt64
deriving DecidableEq, Repr

namespace Binary64

def ofFloat (x : Float) : Binary64 := ⟨x.toBits⟩

def toFloat (x : Binary64) : Float := Float.ofBits x.bits

instance : Mul Binary64 := ⟨fun x y => ofFloat (x.toFloat * y.toFloat)⟩
instance : Div Binary64 := ⟨fun x y => ofFloat (x.toFloat / y.toFloat)⟩

def isNegative (x : Binary64) : Bool :=
  Nat.pow 2 63 ≤ x.bits.toNat

def magnitude (x : Binary64) : Nat :=
  x.bits.toNat % Nat.pow 2 63

def infinity : Nat := 2047 * Nat.pow 2 52

def isFinite (x : Binary64) : Bool :=
  x.magnitude < infinity

def ofMagnitude (negative : Bool) (magnitude : Nat) : Binary64 :=
  ⟨UInt64.ofNat (magnitude + if negative then Nat.pow 2 63 else 0)⟩

def zero (negative : Bool) : Binary64 :=
  ofMagnitude negative 0

def mantissa (x : Binary64) : Nat :=
  if x.magnitude < Nat.pow 2 52 then x.magnitude else x.magnitude % Nat.pow 2 52 + Nat.pow 2 52

def exponent (x : Binary64) : Int :=
  if x.magnitude < Nat.pow 2 52 then -1074 else (x.magnitude / Nat.pow 2 52 : Nat) - 1075

def scaled (base n : Nat) (e : Int) : Nat × Nat :=
  (n * Nat.pow base e.toNat, Nat.pow base (-e).toNat)

def nearest (num den : Nat) : Nat :=
  let q := num / den
  let r := num % den
  if den < 2 * r || (den = 2 * r && q % 2 = 1) then q + 1 else q

def exponentFor (num den : Nat) : Int :=
  let e := (num.log2 : Int) - den.log2 - 53
  let (n, d) := scaled 2 num (-e)
  max (-1074) (if n / (den * d) < Nat.pow 2 53 then e else e + 1)

/-- The number nearest to a quotient, a tie going to the even mantissa; what lies above all of
them is infinite. -/
def ofQuotient (negative : Bool) (num den : Nat) : Binary64 :=
  if num = 0 then zero negative
  else
    let e := exponentFor num den
    let (n, d) := scaled 2 num (-e)
    ofMagnitude negative (min infinity ((e + 1074).toNat * Nat.pow 2 52 + nearest n (den * d)))

def units (x : Binary64) : Int :=
  let n := x.mantissa * Nat.pow 2 (x.exponent + 1074).toNat
  if x.isNegative then -n else n

def notANumber : Binary64 :=
  ofMagnitude false (infinity + Nat.pow 2 51)

/-- The number nearest to the exact sum. A sum of zero is negative only when both numbers are, and
infinities of opposite signs have no sum. -/
def add (x y : Binary64) : Binary64 :=
  if x.isFinite && y.isFinite then
    let n := x.units + y.units
    if n = 0 then zero (x.isNegative && y.isNegative)
    else ofQuotient (n < 0) n.natAbs (Nat.pow 2 1074)
  else if x.isFinite then y
  else if y.isFinite || x = y then x
  else notANumber

instance : Add Binary64 := ⟨add⟩

def ofInt (n : Int) : Binary64 :=
  ofQuotient (n < 0) n.natAbs 1

end Binary64

end ActionBridge
