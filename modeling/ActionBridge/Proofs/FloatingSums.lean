import ActionBridge.Expression.Function
import Mathlib.Algebra.Order.Group.Nat
import Mathlib.Tactic.Ring
import Mathlib.Tactic.Linarith

namespace ActionBridge

namespace Binary64

theorem magnitude_ofMagnitude {m : Nat} (h : m < 2 ^ 63) (negative : Bool) :
    (ofMagnitude negative m).magnitude = m := by
  rw [magnitude, ofMagnitude, UInt64.toNat_ofNat']
  cases negative <;> simp only [Nat.pow_eq, if_true, Bool.false_eq_true, if_false] <;> omega

theorem nearest_le {num den q : Nat} (h : 2 * num < (2 * q + 1) * den) : nearest num den ≤ q := by
  have hden : 0 < den := Nat.pos_of_ne_zero fun h0 => by simp [h0] at h
  have hdiv := Nat.div_add_mod num den
  have hq : num / den ≤ q := by
    refine Nat.le_of_lt_succ ((Nat.div_lt_iff_lt_mul hden).2 ?_)
    rw [Nat.succ_eq_add_one]
    linarith
  rw [nearest]
  rcases Nat.lt_or_eq_of_le hq with hlt | rfl
  · split <;> omega
  · have hr : 2 * (num % den) < den := by
      have hmul : (2 * (num / den) + 1) * den = 2 * (den * (num / den)) + den := by ring
      omega
    rw [if_neg]
    simp only [Bool.or_eq_true, Bool.and_eq_true, decide_eq_true_eq]
    omega

theorem nearest_le_of_lt {num den q : Nat} (h : num < q * den) : nearest num den ≤ q := by
  refine nearest_le ?_
  rw [Nat.add_mul, Nat.mul_assoc]
  omega

theorem nearest_le_of_scaled_le {num den : Nat} (hden : 0 < den)
    (h : num * 2 ^ 54 ≤ den * (2 ^ 52 * (2 ^ 54 + 1))) : nearest num den ≤ 1 * 2 ^ 52 := by
  refine nearest_le ?_
  omega

theorem scaled_neg (num : Nat) (e : Int) :
    scaled 2 num (-e) = (num * 2 ^ (-e).toNat, 2 ^ e.toNat) := by
  rw [scaled, neg_neg]
  rfl

theorem exponentFor_two_pow {num : Nat} (hnum : num ≠ 0) (j : Nat) :
    exponentFor num (2 ^ j) = max (-1074) ((num.log2 : Int) - j - 52) := by
  rw [exponentFor, Nat.log2_two_pow]
  generalize he : (num.log2 : Int) - j - 53 = e
  have hfull : 2 ^ 53 ≤ num * 2 ^ (-e).toNat / (2 ^ j * 2 ^ e.toNat) := by
    rw [Nat.le_div_iff_mul_le (by positivity)]
    calc 2 ^ 53 * (2 ^ j * 2 ^ e.toNat) = 2 ^ (num.log2 + (-e).toNat) := by
          rw [← Nat.pow_add, ← Nat.pow_add]
          congr 1
          omega
      _ = 2 ^ num.log2 * 2 ^ (-e).toNat := Nat.pow_add ..
      _ ≤ num * 2 ^ (-e).toNat := Nat.mul_le_mul_right _ (Nat.log2_self_le hnum)
  simp only [scaled_neg]
  rw [Nat.pow_eq, if_neg (Nat.not_lt.2 hfull)]
  congr 1
  omega

theorem quotient_lt (num j : Nat) {e : Int} (he : (num.log2 : Int) - j - 52 ≤ e) :
    num * 2 ^ (-e).toNat < 2 ^ 53 * (2 ^ j * 2 ^ e.toNat) :=
  calc num * 2 ^ (-e).toNat < 2 ^ (num.log2 + 1) * 2 ^ (-e).toNat :=
        Nat.mul_lt_mul_of_pos_right Nat.lt_log2_self (by positivity)
    _ ≤ 2 ^ 53 * (2 ^ j * 2 ^ e.toNat) := by
        rw [← Nat.pow_add, ← Nat.pow_add, ← Nat.pow_add]
        exact Nat.pow_le_pow_right (by decide) (by omega)

theorem quotient_le_of_le {num j a : Nat} {e : Int} (h : num * 2 ^ 54 ≤ 2 ^ (j + a) * (2 ^ 54 + 1))
    (he : e + 52 = a) :
    num * 2 ^ (-e).toNat * 2 ^ 54 ≤ 2 ^ j * 2 ^ e.toNat * (2 ^ 52 * (2 ^ 54 + 1)) := by
  have hexp : j + a + (-e).toNat = j + e.toNat + 52 := by omega
  calc num * 2 ^ (-e).toNat * 2 ^ 54 = num * 2 ^ 54 * 2 ^ (-e).toNat := by ring
    _ ≤ 2 ^ (j + a) * (2 ^ 54 + 1) * 2 ^ (-e).toNat := Nat.mul_le_mul_right _ h
    _ = 2 ^ (j + a + (-e).toNat) * (2 ^ 54 + 1) := by rw [Nat.pow_add _ (j + a)]; ring
    _ = 2 ^ j * 2 ^ e.toNat * (2 ^ 52 * (2 ^ 54 + 1)) := by
        rw [hexp, Nat.pow_add, Nat.pow_add]
        ring

theorem log2_le_of_le {num j a : Nat} (hnum : num ≠ 0)
    (h : num * 2 ^ 54 ≤ 2 ^ (j + a) * (2 ^ 54 + 1)) : num.log2 ≤ j + a := by
  have hpos : 0 < 2 ^ (j + a) := by positivity
  rw [← Nat.lt_succ_iff, Nat.log2_lt hnum, Nat.pow_succ]
  omega

/-- What is at most a power of two, and not much more before rounding, is at most that power of two
after rounding. -/
theorem ofQuotient_magnitude_le {num j a : Nat} (ha : a ≤ 1023)
    (h : num * 2 ^ 54 ≤ 2 ^ (j + a) * (2 ^ 54 + 1)) (negative : Bool) :
    (ofQuotient negative num (Nat.pow 2 j)).magnitude ≤ (a + 1023) * 2 ^ 52 := by
  by_cases hnum : num = 0
  · rw [ofQuotient, if_pos hnum, zero, magnitude_ofMagnitude (by decide)]
    exact Nat.zero_le _
  rw [ofQuotient, if_neg hnum, Nat.pow_eq, exponentFor_two_pow hnum]
  have hlog := log2_le_of_le hnum h
  obtain ⟨e, he⟩ : ∃ e : Int, e = max (-1074) ((num.log2 : Int) - j - 52) := ⟨_, rfl⟩
  rw [← he]
  simp only [scaled_neg]
  have hround : (e + 1074).toNat * 2 ^ 52 +
      nearest (num * 2 ^ (-e).toNat) (2 ^ j * 2 ^ e.toNat) ≤ (a + 1023) * 2 ^ 52 := by
    by_cases hsmall : e + 53 ≤ a
    · have hn : nearest (num * 2 ^ (-e).toNat) (2 ^ j * 2 ^ e.toNat) ≤ 2 * 2 ^ 52 :=
        nearest_le_of_lt (quotient_lt num j (he ▸ le_max_right ..))
      have hexp : (e + 1074).toNat + 2 ≤ a + 1023 := by omega
      calc _ ≤ (e + 1074).toNat * 2 ^ 52 + 2 * 2 ^ 52 := Nat.add_le_add_left hn _
        _ = ((e + 1074).toNat + 2) * 2 ^ 52 := (Nat.add_mul ..).symm
        _ ≤ (a + 1023) * 2 ^ 52 := Nat.mul_le_mul_right _ hexp
    -- the number is next to the power of two and rounded down to it
    · have hn : nearest (num * 2 ^ (-e).toNat) (2 ^ j * 2 ^ e.toNat) ≤ 1 * 2 ^ 52 :=
        nearest_le_of_scaled_le (by positivity) (quotient_le_of_le h (by omega))
      have hexp : (e + 1074).toNat + 1 ≤ a + 1023 := by omega
      calc _ ≤ (e + 1074).toNat * 2 ^ 52 + 1 * 2 ^ 52 := Nat.add_le_add_left hn _
        _ = ((e + 1074).toNat + 1) * 2 ^ 52 := (Nat.add_mul ..).symm
        _ ≤ (a + 1023) * 2 ^ 52 := Nat.mul_le_mul_right _ hexp
  rw [magnitude_ofMagnitude]
  · exact (Nat.min_le_right _ _).trans hround
  · exact (Nat.min_le_left _ _).trans_lt (by decide)

def AtMostPower (a : Nat) (x : Binary64) : Prop :=
  x.magnitude ≤ (a + 1023) * 2 ^ 52

section

variable {a b : Nat} {x y : Binary64}

theorem AtMostPower.isFinite (h : x.AtMostPower a) (ha : a ≤ 1023) : x.isFinite = true := by
  rw [Binary64.isFinite, decide_eq_true_iff]
  refine h.trans_lt (Nat.mul_lt_mul_of_pos_right ?_ (by decide))
  omega

theorem atMostPower_zero (a : Nat) (negative : Bool) : (zero negative).AtMostPower a := by
  rw [AtMostPower, zero, magnitude_ofMagnitude (by decide)]
  exact Nat.zero_le _

theorem rest_mul_pow_le {quotient rest : Nat} (hrest : rest < 2 ^ 52)
    (h : 2 ^ 52 * quotient + rest ≤ (a + 1023) * 2 ^ 52) :
    (rest + 2 ^ 52) * 2 ^ (quotient - 1) ≤ 2 ^ (a + 1074) := by
  rcases Nat.lt_or_ge quotient (a + 1023) with hlt | hge
  · calc (rest + 2 ^ 52) * 2 ^ (quotient - 1) ≤ 2 ^ 53 * 2 ^ (a + 1021) :=
          Nat.mul_le_mul (by omega) (Nat.pow_le_pow_right (by decide) (by omega))
      _ = 2 ^ (53 + (a + 1021)) := (Nat.pow_add ..).symm
      _ ≤ 2 ^ (a + 1074) := Nat.pow_le_pow_right (by decide) (by omega)
  · have hzero : rest = 0 := by omega
    have hquotient : quotient - 1 = a + 1022 := by omega
    rw [hzero, hquotient, Nat.zero_add, ← Nat.pow_add]
    exact Nat.pow_le_pow_right (by decide) (Nat.add_comm 52 (a + 1022)).le

theorem AtMostPower.units (h : x.AtMostPower a) : x.units.natAbs ≤ 2 ^ (a + 1074) := by
  have hunits : x.units.natAbs = x.mantissa * 2 ^ (x.exponent + 1074).toNat := by
    rw [Binary64.units]
    split
    · exact (Int.natAbs_neg _).trans (Int.natAbs_natCast _)
    · exact Int.natAbs_natCast _
  rw [hunits, mantissa, exponent, Nat.pow_eq]
  rw [AtMostPower] at h
  by_cases hsmall : x.magnitude < 2 ^ 52
  · rw [if_pos hsmall, if_pos hsmall]
    calc x.magnitude * 2 ^ (-1074 + 1074 : Int).toNat ≤ 2 ^ 52 * 1 :=
          Nat.mul_le_mul hsmall.le (by decide)
      _ = 2 ^ 52 := Nat.mul_one _
      _ ≤ 2 ^ (a + 1074) := Nat.pow_le_pow_right (by decide) (by omega)
  · rw [if_neg hsmall, if_neg hsmall]
    have hmod : x.magnitude % 2 ^ 52 < 2 ^ 52 := Nat.mod_lt _ (by decide)
    have hexp : (((x.magnitude / 2 ^ 52 : Nat) : Int) - 1075 + 1074).toNat =
        x.magnitude / 2 ^ 52 - 1 := by omega
    rw [← Nat.div_add_mod x.magnitude (2 ^ 52)] at h
    exact hexp ▸ rest_mul_pow_le hmod h

theorem atMostPower_ofInt {n : Int} (h : n.natAbs ≤ 2 ^ 63) : (ofInt n).AtMostPower 63 := by
  have hle : n.natAbs * 2 ^ 54 ≤ 2 ^ (0 + 63) * (2 ^ 54 + 1) := by omega
  exact ofQuotient_magnitude_le (j := 0) (a := 63) (by decide) hle (n < 0)

theorem scaled_sum_le {n bound step : Nat} (h : n ≤ bound + step) (hs : step * 2 ^ 54 ≤ bound) :
    n * 2 ^ 54 ≤ bound * (2 ^ 54 + 1) :=
  calc n * 2 ^ 54 ≤ (bound + step) * 2 ^ 54 := Nat.mul_le_mul_right _ h
    _ = bound * 2 ^ 54 + step * 2 ^ 54 := Nat.add_mul ..
    _ ≤ bound * 2 ^ 54 + bound := Nat.add_le_add_left hs _
    _ = bound * (2 ^ 54 + 1) := (Nat.mul_succ ..).symm

theorem AtMostPower.add (hx : x.AtMostPower a) (hy : y.AtMostPower b) (hab : b + 54 ≤ a)
    (ha : a ≤ 1023) : (x + y).AtMostPower a := by
  change (Binary64.add x y).AtMostPower a
  rw [Binary64.add, hx.isFinite ha, hy.isFinite (by omega)]
  simp only [Bool.and_self, if_true]
  split
  · exact atMostPower_zero a _
  · have hsum : (x.units + y.units).natAbs ≤ 2 ^ (a + 1074) + 2 ^ (b + 1074) :=
      (Int.natAbs_add_le _ _).trans (Nat.add_le_add hx.units hy.units)
    -- a variable for the exponent, for its power of two is too large to compute with
    obtain ⟨j, hj⟩ : ∃ j : Nat, 1074 = j := ⟨_, rfl⟩
    rw [hj] at hsum ⊢
    have hsmall : 2 ^ (b + j) * 2 ^ 54 ≤ 2 ^ (a + j) := by
      rw [← Nat.pow_add]
      exact Nat.pow_le_pow_right (by decide) (by omega)
    refine ofQuotient_magnitude_le ha ?_ _
    rw [Nat.add_comm j a]
    exact scaled_sum_le hsum hsmall

end

theorem atMostPower_foldl {ns : List Int} (h : ∀ n ∈ ns, n.natAbs ≤ 2 ^ 63) {sum : Binary64}
    (hsum : sum.AtMostPower 117) :
    (ns.foldl (fun sum n => sum + ofInt n) sum).AtMostPower 117 := by
  induction ns generalizing sum with
  | nil => exact hsum
  | cons n ns ih =>
    obtain ⟨hn, hns⟩ := List.forall_mem_cons.1 h
    exact ih hns (hsum.add (atMostPower_ofInt hn) (by decide) (by decide))

end Binary64

theorem Expression.floatingSum_isFinite {ns : List Int} (h : ∀ n ∈ ns, n.natAbs ≤ 2 ^ 63) :
    (floatingSum (ns.map .int)).isFinite = true := by
  rw [floatingSum, List.foldl_map]
  exact (Binary64.atMostPower_foldl h (Binary64.atMostPower_zero 117 true)).isFinite (by decide)

end ActionBridge
