import ActionBridge.Proofs.Pieces
import ActionBridge.Url.Percent

namespace ActionBridge

namespace Text

theorem encodeUtf8_inj {cs ds : List Char} (h : encodeUtf8 cs = encodeUtf8 ds) : cs = ds := by
  have hbytes : cs.utf8Encode = ds.utf8Encode := congrArg List.toByteArray h
  have hread := congrArg ByteArray.utf8Decode? hbytes
  rw [List.utf8Decode?_utf8Encode, List.utf8Decode?_utf8Encode] at hread
  simpa using hread

theorem forall_mem_of_all {P : Char → Prop} [DecidablePred P] {cs : List Char}
    (h : cs.all (fun c => decide (P c)) = true) : ∀ c ∈ cs, P c :=
  fun c hc => of_decide_eq_true (List.all_eq_true.1 h c hc)

theorem forall_mem_joinWith {P : Char → Prop} {separator : List Char} {pieces : List (List Char)}
    (hs : ∀ c ∈ separator, P c) (hp : ∀ piece ∈ pieces, ∀ c ∈ piece, P c) :
    ∀ c ∈ joinWith separator pieces, P c := by
  fun_induction joinWith separator pieces with
  | case1 => simp
  | case2 piece => exact hp piece List.mem_cons_self
  | case3 piece pieces _ ih =>
    intro c hc
    rcases List.mem_append.1 hc with hc | hc
    · rcases List.mem_append.1 hc with hc | hc
      · exact hp piece List.mem_cons_self c hc
      · exact hs c hc
    · exact ih (fun p h => hp p (List.mem_cons_of_mem _ h)) c hc

end Text

namespace Url

def codeChars : List Char := "%0123456789ABCDEF".toList

theorem upperHexDigit_mem {n : Nat} (h : n < 16) : upperHexDigit n ∈ codeChars := by
  have hall : ∀ m : Fin 16, upperHexDigit m ∈ codeChars := by decide
  exact hall ⟨n, h⟩

theorem mem_codeChars_of_mem_percentChar {c d : Char} (h : d ∈ percentChar c) :
    d ∈ codeChars := by
  obtain ⟨b, -, hd⟩ := List.mem_flatMap.1 h
  have hb : b.toNat < 256 := b.toNat_lt
  simp only [percentByte, List.mem_cons, List.not_mem_nil, or_false] at hd
  rcases hd with rfl | rfl | rfl
  · decide
  · exact upperHexDigit_mem (by omega)
  · exact upperHexDigit_mem (by omega)

theorem hexByte?_upperHexDigit (b : UInt8) :
    hexByte? (upperHexDigit (b.toNat / 16)) (upperHexDigit (b.toNat % 16)) = some b := by
  have hall : ∀ n : Fin 16, Number.hexDigit? (upperHexDigit n) = some n.val := by decide
  have hb : b.toNat < 256 := b.toNat_lt
  have hhigh : Number.hexDigit? (upperHexDigit (b.toNat / 16)) = some (b.toNat / 16) :=
    hall ⟨b.toNat / 16, by omega⟩
  have hlow : Number.hexDigit? (upperHexDigit (b.toNat % 16)) = some (b.toNat % 16) :=
    hall ⟨b.toNat % 16, by omega⟩
  simp only [hexByte?, hhigh, hlow, Option.bind_eq_bind, Option.bind_some, Option.pure_def,
    Nat.div_add_mod, UInt8.ofNat_toNat]

theorem percentDecode_percentByte (b : UInt8) (rest : List Char) :
    percentDecode (percentByte b ++ rest) = b :: percentDecode rest := by
  simp only [percentByte, List.cons_append, List.nil_append, percentDecode, hexByte?_upperHexDigit]

theorem percentDecode_bytes (bytes : List UInt8) (rest : List Char) :
    percentDecode (bytes.flatMap percentByte ++ rest) = bytes ++ percentDecode rest := by
  induction bytes with
  | nil => rfl
  | cons b bytes ih =>
    rw [List.flatMap_cons, List.append_assoc, percentDecode_percentByte, ih, List.cons_append]

theorem percentDecode_plain {c : Char} (h : c ≠ '%') (rest : List Char) :
    percentDecode (c :: rest) = String.utf8EncodeChar c ++ percentDecode rest := by
  rw [percentDecode]
  rintro a b rest rfl
  exact absurd rfl h

theorem percentDecode_percentEncode {escaped : Char → Bool} (h : escaped '%' = true)
    (cs : List Char) : percentDecode (percentEncode escaped cs) = Text.encodeUtf8 cs := by
  induction cs with
  | nil => rfl
  | cons c cs ih =>
    rw [percentEncode, List.flatMap_cons, Text.encodeUtf8, List.flatMap_cons]
    split
    · rename_i hplain
      have hc : c ≠ '%' := by
        rintro rfl
        simp [h] at hplain
      rw [List.singleton_append, percentDecode_plain hc]
      exact congrArg _ ih
    · rw [percentChar, percentDecode_bytes]
      exact congrArg _ ih

theorem head?_percentEncode_ne {c : Char} (hcode : c ∉ codeChars) {escaped : Char → Bool}
    {cs : List Char} (h : cs.head? ≠ some c) : (percentEncode escaped cs).head? ≠ some c := by
  cases cs with
  | nil => exact h
  | cons d cs =>
    intro hhead
    simp only [percentEncode, List.flatMap_cons] at hhead
    split at hhead
    · exact h hhead
    · have hne : String.utf8EncodeChar d ≠ [] := String.utf8EncodeChar_ne_nil
      obtain ⟨b, bytes, hbytes⟩ := List.exists_cons_of_ne_nil hne
      simp only [percentChar, hbytes, List.flatMap_cons, percentByte, List.cons_append,
        List.head?_cons, Option.some.injEq] at hhead
      exact hcode (hhead ▸ by decide)

theorem eq_or_upper_of_toLower {c d : Char} (h : c.toLower = d) :
    c = d ∨ c.toNat + 32 = d.toNat ∧ 65 ≤ c.toNat ∧ c.toNat ≤ 90 := by
  unfold Char.toLower at h
  split at h
  · rename_i hc
    have hval : c.val + ('a'.val - 'A'.val) = d.val := congrArg Char.val h
    have hsum := congrArg UInt32.toNat hval
    have hlow : 65 ≤ c.val.toNat := UInt32.le_iff_toNat_le.1 hc.1
    have hhigh : c.val.toNat ≤ 90 := UInt32.le_iff_toNat_le.1 hc.2
    have hshift : ('a'.val - 'A'.val).toNat = 32 := rfl
    rw [UInt32.toNat_add, hshift, Nat.mod_eq_of_lt (by omega)] at hsum
    exact .inr ⟨hsum, hlow, hhigh⟩
  · exact .inl h

section

variable {P : Char → Prop} (hcode : ∀ c ∈ codeChars, P c)
include hcode

theorem forall_mem_percentEncode {escaped : Char → Bool} {cs : List Char}
    (h : ∀ c ∈ cs, escaped c = false → P c) : ∀ c ∈ percentEncode escaped cs, P c := by
  intro d hd
  obtain ⟨c, hc, hd⟩ := List.mem_flatMap.1 hd
  by_cases hplain : (c.toNat < 128 && !escaped c) = true
  · rw [if_pos hplain, List.mem_singleton] at hd
    simp only [Bool.and_eq_true, Bool.not_eq_true'] at hplain
    exact hd ▸ h c hc hplain.2
  · rw [if_neg hplain] at hd
    exact hcode d (mem_codeChars_of_mem_percentChar hd)

theorem forall_mem_formEncode (hplus : P '+') (hplain : ∀ c, isFormPlain c = true → P c)
    (cs : List Char) : ∀ c ∈ formEncode cs, P c := by
  intro d hd
  obtain ⟨c, -, hd⟩ := List.mem_flatMap.1 hd
  by_cases hblank : c = ' '
  · rw [if_pos hblank, List.mem_singleton] at hd
    exact hd ▸ hplus
  · rw [if_neg hblank] at hd
    by_cases hc : isFormPlain c = true
    · rw [if_pos hc, List.mem_singleton] at hd
      exact hd ▸ hplain c hc
    · rw [if_neg hc] at hd
      exact hcode d (mem_codeChars_of_mem_percentChar hd)

end

theorem forall_mem_toDigits {P : Char → Prop} {base : Nat} (hbase : 1 < base)
    (hP : ∀ d < base, P d.digitChar) (n : Nat) : ∀ c ∈ Nat.toDigits base n, P c := by
  induction n using Nat.strongRecOn with
  | ind n ih =>
    intro c hc
    by_cases hn : n < base
    · rw [Nat.toDigits_of_lt_base hn, List.mem_singleton] at hc
      exact hc ▸ hP n hn
    · have hpos : 0 < n / base := Nat.div_pos (by omega) (by omega)
      have hlast : n % base < base := Nat.mod_lt _ (by omega)
      rw [← Nat.div_add_mod n base, ← Nat.toDigits_append_toDigits hbase hpos hlast] at hc
      rcases List.mem_append.1 hc with hc | hc
      · exact ih (n / base) (Nat.div_lt_self (by omega) hbase) c hc
      · rw [Nat.toDigits_of_lt_base hlast, List.mem_singleton] at hc
        exact hc ▸ hP _ hlast

end Url

end ActionBridge
