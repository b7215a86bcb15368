import ActionBridge.Number.Shortest

namespace ActionBridge

/-- An integer of 64 bits, signed or not, or a finite floating point number. -/
inductive Number where
  | int (n : Int)
  | float (x : Binary64)
deriving DecidableEq, Repr

namespace Number

def minSigned : Int := -Nat.pow 2 63
def maxSigned : Int := Nat.pow 2 63 - 1

def ofBinary64? (x : Binary64) : Option Number :=
  if x.isFinite then some (.float x) else none

def toSigned? : Number → Option Int
  | .int n => if n ≤ maxSigned then some n else none
  | .float _ => none

def toUnsigned? : Number → Option Nat
  | .int n => n.toNat?
  | .float _ => none

def toBinary64 : Number → Binary64
  | .int n => .ofInt n
  | .float x => x

def sameValue : Number → Number → Bool
  | .int m, .int n => m = n
  | .float x, .float y => x = y || (x.magnitude = 0 && y.magnitude = 0)
  | _, _ => false

def toText : Number → List Char
  | .int n => (toString n).toList
  | .float x => x.toText

end Number

end ActionBridge
