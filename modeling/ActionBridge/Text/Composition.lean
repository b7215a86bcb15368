import ActionBridge.Text.Composite
import ActionBridge.Text.Mark

namespace ActionBridge.Text

def syllableLetters? (n : Nat) : Option (List Nat) :=
  if 0xAC00 ≤ n && n ≤ 0xD7A3 then
    let i := n - 0xAC00
    let tail := if i % 28 = 0 then [] else [0x11A7 + i % 28]
    some ([0x1100 + i / 588, 0x1161 + i % 588 / 28] ++ tail)
  else none

def syllable? (a b : Nat) : Option Nat :=
  if 0x1100 ≤ a && a ≤ 0x1112 && 0x1161 ≤ b && b ≤ 0x1175 then
    some (0xAC00 + ((a - 0x1100) * 21 + (b - 0x1161)) * 28)
  else if 0xAC00 ≤ a && a ≤ 0xD7A3 && (a - 0xAC00) % 28 = 0 && 0x11A7 < b && b ≤ 0x11C2 then
    some (a + (b - 0x11A7))
  else none

/-- Takes a code point apart in at most so many steps; only the first part of a composite can be a
composite again. -/
def takeApart : Nat → Nat → List Nat
  | 0, n => [n]
  | steps + 1, n =>
    if n < 0xC0 then [n]
    else
      match imageIn? compositeRows n with
      | some (a :: marks) => takeApart steps a ++ marks
      | _ =>
        match syllableLetters? n with
        | some letters => letters
        | none => (imageIn? dissolvedRows n).getD [n]

def maxSteps : Nat := 4

def placeMark (n : Nat) : List Nat → List Nat
  | [] => [n]
  | m :: ms =>
    if 0 < combiningClass m && combiningClass m < combiningClass n then m :: placeMark n ms
    else n :: m :: ms

/-- The composite of two code points; a code point that follows another in one is no Latin letter. -/
def composite? (a b : Nat) : Option Nat :=
  if b < 0x300 then none else (syllable? a b).or (compositeRows.findSome? (·.inverse? [a, b]))

/-- Puts code points together with the last one that does not move. `kept` are the marks that have
stayed behind it, the nearest last; a mark cannot pass one of its own class or a higher one. -/
def composeAfter (start : Nat) (kept : List Nat) : List Nat → List Nat
  | [] => start :: kept.reverse
  | n :: ns =>
    let isFree := kept.head?.all fun m => combiningClass m < combiningClass n
    match if isFree then composite? start n else none with
    | some composite => composeAfter composite kept ns
    | none =>
      if combiningClass n = 0 then start :: kept.reverse ++ composeAfter n [] ns
      else composeAfter start (n :: kept) ns

def compose : List Nat → List Nat
  | [] => []
  | n :: ns => if combiningClass n = 0 then composeAfter n [] ns else n :: compose ns

def composed (cs : List Char) : List Char :=
  let apart := cs.flatMap fun c => takeApart maxSteps c.toNat
  (compose (apart.foldr placeMark [])).map Char.ofNat

end ActionBridge.Text
