/-!
Texts as bytes. Reading yields one entry for every character, and one without a character for every
ill-formed run of bytes that cannot be extended to a character.
-/

namespace ActionBridge.Text

def encodeUtf8 (cs : List Char) : List UInt8 :=
  cs.flatMap String.utf8EncodeChar

/-- Reads `n` continuation bytes, the first of them between `low` and `high`; stops in front of the
first byte that does not fit. -/
def continuation (low high : Nat) : Nat → Nat → List UInt8 → Option Nat × List UInt8
  | 0, value, bytes => (some value, bytes)
  | _ + 1, _, [] => (none, [])
  | n + 1, value, b :: bytes =>
    if low ≤ b.toNat && b.toNat ≤ high then
      continuation 0x80 0xBF n (value * 64 + (b.toNat - 0x80)) bytes
    else
      (none, b :: bytes)

def characterAfter (b : UInt8) (bytes : List UInt8) : Option Nat × List UInt8 :=
  let n := b.toNat
  if n < 0x80 then (some n, bytes)
  else if n < 0xC2 then (none, bytes)
  else if n < 0xE0 then continuation 0x80 0xBF 1 (n - 0xC0) bytes
  else if n = 0xE0 then continuation 0xA0 0xBF 2 0 bytes
  else if n = 0xED then continuation 0x80 0x9F 2 0xD bytes
  else if n < 0xF0 then continuation 0x80 0xBF 2 (n - 0xE0) bytes
  else if n = 0xF0 then continuation 0x90 0xBF 3 0 bytes
  else if n < 0xF4 then continuation 0x80 0xBF 3 (n - 0xF0) bytes
  else if n = 0xF4 then continuation 0x80 0x8F 3 4 bytes
  else (none, bytes)

theorem length_continuation (low high n value : Nat) (bytes : List UInt8) :
    (continuation low high n value bytes).2.length ≤ bytes.length := by
  induction n generalizing low high value bytes with
  | zero => simp [continuation]
  | succ n ih =>
    cases bytes with
    | nil => simp [continuation]
    | cons b bytes =>
      unfold continuation
      split
      · exact Nat.le_succ_of_le (ih ..)
      · simp

theorem length_characterAfter (b : UInt8) (bytes : List UInt8) :
    (characterAfter b bytes).2.length ≤ bytes.length := by
  simp only [characterAfter]
  repeat' split
  all_goals first | exact length_continuation .. | exact Nat.le_refl _

def decodeUtf8 : List UInt8 → List (Option Char)
  | [] => []
  | b :: bytes =>
    (characterAfter b bytes).1.map Char.ofNat :: decodeUtf8 (characterAfter b bytes).2
termination_by bytes => bytes.length
decreasing_by
  have := length_characterAfter b bytes
  simp only [List.length_cons]
  omega

def decodeLossy (bytes : List UInt8) : List Char :=
  (decodeUtf8 bytes).map (·.getD (Char.ofNat 0xFFFD))

def decodeStrict? (bytes : List UInt8) : Option (List Char) :=
  (decodeUtf8 bytes).mapM id

end ActionBridge.Text
