
namespace ActionBridge.Number

def hexDigit? (c : Char) : Option Nat :=
  if c.isDigit then some (c.toNat - 0x30)
  else if 'a' ≤ c && c ≤ 'f' then some (c.toNat - 0x57)
  else if 'A' ≤ c && c ≤ 'F' then some (c.toNat - 0x37)
  else none

def ofRadix? (radix : Nat) (cs : List Char) : Option Nat :=
  cs.foldl (fun n c => do
    let d ← hexDigit? c
    if d < radix then some (radix * (← n) + d) else none) (some 0)

end ActionBridge.Number
