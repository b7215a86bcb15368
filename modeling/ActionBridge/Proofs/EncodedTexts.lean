import ActionBridge.Text.Utf8

namespace ActionBridge.Text

theorem toNat_byte {n : Nat} (h : n < 256) : (UInt8.ofNat n).toNat = n :=
  UInt8.toNat_ofNat_of_lt h

theorem continuation_ofNat {low high n value d : Nat} {bytes : List UInt8} (hd : d < 256)
    (hlow : low ≤ d) (hhigh : d ≤ high) :
    continuation low high (n + 1) value (UInt8.ofNat d :: bytes) =
      continuation 0x80 0xBF n (value * 64 + (d - 0x80)) bytes := by
  have hb : (UInt8.ofNat d).toNat = d := toNat_byte hd
  rw [continuation, hb, if_pos (by simp [hlow, hhigh])]

theorem characterAfter_three {d : Nat} (hd : d < 16) (bytes : List UInt8) :
    characterAfter (UInt8.ofNat (d + 224)) bytes =
      continuation (if d = 0 then 0xA0 else 0x80) (if d = 13 then 0x9F else 0xBF) 2 d bytes := by
  have hb : (UInt8.ofNat (d + 224)).toNat = d + 224 := toNat_byte (by omega)
  simp only [characterAfter, hb, Nat.add_sub_cancel]
  rw [if_neg (by omega), if_neg (by omega), if_neg (by omega)]
  by_cases hzero : d = 0
  · rw [if_pos (by omega), if_pos hzero, if_neg (by omega), hzero]
  · rw [if_neg (by omega), if_neg hzero]
    by_cases hlast : d = 13
    · rw [if_pos (by omega), if_pos hlast, hlast]
    · rw [if_neg (by omega), if_pos (by omega), if_neg hlast]

theorem characterAfter_four {d : Nat} (hd : d < 5) (bytes : List UInt8) :
    characterAfter (UInt8.ofNat (d + 240)) bytes =
      continuation (if d = 0 then 0x90 else 0x80) (if d = 4 then 0x8F else 0xBF) 3 d bytes := by
  have hb : (UInt8.ofNat (d + 240)).toNat = d + 240 := toNat_byte (by omega)
  simp only [characterAfter, hb, Nat.add_sub_cancel]
  rw [if_neg (by omega), if_neg (by omega), if_neg (by omega), if_neg (by omega),
    if_neg (by omega), if_neg (by omega)]
  by_cases hzero : d = 0
  · rw [if_pos (by omega), if_pos hzero, if_neg (by omega), hzero]
  · rw [if_neg (by omega), if_neg hzero]
    by_cases hlast : d = 4
    · rw [if_neg (by omega), if_pos (by omega), if_pos hlast, hlast]
    · rw [if_pos (by omega), if_neg hlast]

theorem characterAfter_encoded (c : Char) (rest : List UInt8) :
    ∃ b bytes, String.utf8EncodeChar c = b :: bytes ∧
      characterAfter b (bytes ++ rest) = (some c.toNat, rest) := by
  have hvalid : c.val.toNat < 0xD800 ∨ 0xDFFF < c.val.toNat ∧ c.val.toNat < 0x110000 := c.valid
  change ∃ b bytes, _ ∧ _ = (some c.val.toNat, rest)
  unfold String.utf8EncodeChar
  generalize c.val.toNat = v at hvalid ⊢
  dsimp only
  by_cases hone : v ≤ 127
  · have hb : (UInt8.ofNat v).toNat = v := toNat_byte (by omega)
    rw [if_pos hone]
    refine ⟨_, _, rfl, ?_⟩
    simp only [characterAfter, hb]
    rw [if_pos (by omega), List.nil_append]
  rw [if_neg hone]
  by_cases htwo : v ≤ 2047
  · have hb : (UInt8.ofNat (v / 64 % 32 + 192)).toNat = v / 64 % 32 + 192 :=
      toNat_byte (by omega)
    have hsum : (v / 64 % 32 + 192 - 192) * 64 + (v % 64 + 128 - 128) = v := by omega
    rw [if_pos htwo]
    refine ⟨_, _, rfl, ?_⟩
    simp only [characterAfter, hb, List.cons_append, List.nil_append]
    rw [if_neg (by omega), if_neg (by omega), if_pos (by omega),
      continuation_ofNat (by omega) (by omega) (by omega), continuation, hsum]
  rw [if_neg htwo]
  by_cases hthree : v ≤ 65535
  · have hsum : ((v / 4096 % 16) * 64 + (v / 64 % 64 + 128 - 128)) * 64 + (v % 64 + 128 - 128) = v := by
      omega
    rw [if_pos hthree]
    refine ⟨_, _, rfl, ?_⟩
    rw [characterAfter_three (by omega), List.cons_append, List.cons_append,
      continuation_ofNat (by omega) (by split <;> omega) (by split <;> omega),
      continuation_ofNat (by omega) (by omega) (by omega), continuation, hsum, List.nil_append]
  · have hsum : (((v / 262144 % 8) * 64 + (v / 4096 % 64 + 128 - 128)) * 64 +
        (v / 64 % 64 + 128 - 128)) * 64 + (v % 64 + 128 - 128) = v := by omega
    rw [if_neg hthree]
    refine ⟨_, _, rfl, ?_⟩
    rw [characterAfter_four (by omega), List.cons_append, List.cons_append, List.cons_append,
      continuation_ofNat (by omega) (by split <;> omega) (by split <;> omega),
      continuation_ofNat (by omega) (by omega) (by omega),
      continuation_ofNat (by omega) (by omega) (by omega), continuation, hsum, List.nil_append]

theorem decodeUtf8_encodeUtf8 (cs : List Char) : decodeUtf8 (encodeUtf8 cs) = cs.map some := by
  induction cs with
  | nil => rw [encodeUtf8, List.flatMap_nil, decodeUtf8, List.map_nil]
  | cons c cs ih =>
    obtain ⟨b, bytes, hbytes, hread⟩ := characterAfter_encoded c (encodeUtf8 cs)
    have hencoded : encodeUtf8 (c :: cs) = b :: (bytes ++ encodeUtf8 cs) := by
      rw [encodeUtf8, List.flatMap_cons, hbytes]
      rfl
    rw [hencoded, decodeUtf8, hread, ih, Option.map_some, Char.ofNat_toNat, List.map_cons]

theorem decodeLossy_encodeUtf8 (cs : List Char) : decodeLossy (encodeUtf8 cs) = cs := by
  rw [decodeLossy, decodeUtf8_encodeUtf8, List.map_map]
  exact List.map_id cs

end ActionBridge.Text
