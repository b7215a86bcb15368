import ActionBridge.Proofs.EncodedTexts
import Mathlib.Data.Char
import Mathlib.Tactic.SplitIfs

namespace ActionBridge

namespace Text

theorem cons_byte_lt {m n : Nat} {bytes bytes' : List UInt8} (hmn : m ≤ n) (hn : n < 256)
    (h : m = n → bytes < bytes') : UInt8.ofNat m :: bytes < UInt8.ofNat n :: bytes' := by
  rw [List.cons_lt_cons_iff]
  rcases Nat.lt_or_eq_of_le hmn with hlt | rfl
  · left
    rw [UInt8.lt_iff_toNat_lt, toNat_byte hn, toNat_byte (Nat.lt_trans hlt hn)]
    exact hlt
  · exact .inr ⟨rfl, h rfl⟩

theorem encodeChar_lt_encodeChar {c d : Char} (h : c < d) (rest rest' : List UInt8) :
    String.utf8EncodeChar c ++ rest < String.utf8EncodeChar d ++ rest' := by
  have hlt : c.val.toNat < d.val.toNat := h
  have hd : d.val.toNat < 0xD800 ∨ 0xDFFF < d.val.toNat ∧ d.val.toNat < 0x110000 := d.valid
  unfold String.utf8EncodeChar
  generalize c.val.toNat = v at hlt ⊢
  generalize d.val.toNat = w at hlt hd ⊢
  dsimp only
  -- fewer bytes start with a smaller one, and as many differ somewhere
  split_ifs <;> try omega
  all_goals
    simp only [List.cons_append, List.nil_append]
    repeat refine cons_byte_lt (by omega) (by omega) fun _ => ?_
    omega

theorem encodeUtf8_cons (c : Char) (cs : List Char) :
    encodeUtf8 (c :: cs) = String.utf8EncodeChar c ++ encodeUtf8 cs :=
  List.flatMap_cons

theorem encodeUtf8_lt_of_lt {cs ds : List Char} (h : cs < ds) : encodeUtf8 cs < encodeUtf8 ds := by
  induction cs generalizing ds with
  | nil =>
    cases ds with
    | nil => exact absurd h (List.not_lt_nil _)
    | cons d ds =>
      obtain ⟨b, bytes, hb, -⟩ := characterAfter_encoded d []
      rw [encodeUtf8_cons, hb]
      exact List.nil_lt_cons _ _
  | cons c cs ih =>
    cases ds with
    | nil => exact absurd h (List.not_lt_nil _)
    | cons d ds =>
      rw [encodeUtf8_cons, encodeUtf8_cons]
      rcases List.cons_lt_cons_iff.1 h with hcd | ⟨rfl, hrest⟩
      · exact encodeChar_lt_encodeChar hcd _ _
      · exact List.append_left_lt (ih hrest)

end Text

def ByteBefore (a b : String) : Prop :=
  Text.encodeUtf8 a.toList < Text.encodeUtf8 b.toList

theorem byteBefore_iff {a b : String} : ByteBefore a b ↔ a < b := by
  refine ⟨fun h => ?_, fun h => Text.encodeUtf8_lt_of_lt (String.lt_iff.1 h)⟩
  by_contra hab
  by_cases hba : b < a
  · exact List.lt_asymm h (Text.encodeUtf8_lt_of_lt (String.lt_iff.1 hba))
  · obtain rfl : a = b := String.le_antisymm (String.not_lt.1 hba) (String.not_lt.1 hab)
    exact List.lt_irrefl _ h

end ActionBridge
