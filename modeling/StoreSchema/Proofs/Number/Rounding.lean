import Mathlib.Data.Int.Log
import Mathlib.Data.Nat.Log
import Mathlib.Data.Rat.Floor
import Mathlib.Tactic.FieldSimp
import Mathlib.Tactic.GCongr
import Mathlib.Tactic.Positivity
import Mathlib.Tactic.Ring
import StoreSchema.Number.Binary64

/-! # Rounding fractions

What a fraction is rounded to depends on its value only, and not on how it is written. A multiple of
a power of two with no more than 53 bits is kept. Products and quotients of doubles are rounded as
any other fraction of their value.
-/

namespace StoreSchema.Binary64

variable {n d : Nat}

/-! ## Scales -/

theorem scale_value (n d : Nat) (e : Int) :
    ((scale n d e).1 : Rat) / (scale n d e).2 = n / d / 2 ^ e := by
  unfold scale
  split
  next whole =>
    obtain ⟨k, rfl⟩ := Int.eq_ofNat_of_zero_le whole
    rw [Int.toNat_natCast, zpow_natCast, Nat.pow_eq, Nat.cast_mul, Nat.cast_pow, Nat.cast_ofNat,
      div_div]
  next part =>
    obtain ⟨k, rfl⟩ : ∃ k : Nat, e = -(k : Int) := ⟨(-e).toNat, by omega⟩
    rw [neg_neg, Int.toNat_natCast, zpow_neg, zpow_natCast, Nat.pow_eq, Nat.cast_mul, Nat.cast_pow,
      Nat.cast_ofNat, div_inv_eq_mul, div_mul_eq_mul_div]

theorem scale_pos (n : Nat) (e : Int) (positive : 0 < d) : 0 < (scale n d e).2 := by
  unfold scale
  split
  next => exact Nat.mul_pos positive (Nat.two_pow_pos _)
  next => exact positive

theorem scale_mul (c n d : Nat) (e : Int) :
    scale (c * n) (c * d) e = (c * (scale n d e).1, c * (scale n d e).2) := by
  unfold scale
  split <;> simp only [Nat.mul_assoc]

/-! ## Nearest numbers -/

theorem roundDiv_mul_left {c : Nat} (positive : 0 < c) (n d : Nat) :
    roundDiv (c * n) (c * d) = roundDiv n d := by
  have below : 2 * (c * (n % d)) < c * d ↔ 2 * (n % d) < d := by
    rw [Nat.mul_left_comm, Nat.mul_lt_mul_left positive]
  have above : c * d < 2 * (c * (n % d)) ↔ d < 2 * (n % d) := by
    rw [Nat.mul_left_comm, Nat.mul_lt_mul_left positive]
  simp only [roundDiv, Nat.mul_div_mul_left n d positive, Nat.mul_mod_mul_left, below, above]

theorem roundDiv_mul (positive : 0 < d) (c : Nat) : roundDiv (c * d) d = c := by
  have quotient : c * d / d = c := Nat.mul_div_cancel c positive
  have rest : c * d % d = 0 := Nat.mul_mod_left c d
  simp [roundDiv, quotient, rest, positive]

/-! ## Exponents -/

theorem exponentOf_le (n d : Nat) :
    exponentOf n d ≤ max ((Nat.log2 n : Int) - Nat.log2 d - 52) leastExponent := by
  unfold exponentOf
  dsimp only
  split <;> omega

theorem log_bounds (nonzero : n ≠ 0) (positive : 0 < d) :
    (2 : Rat) ^ ((Nat.log2 n : Int) - Nat.log2 d - 1) ≤ n / d ∧
      (n : Rat) / d < 2 ^ ((Nat.log2 n : Int) - Nat.log2 d + 1) := by
  have least : (2 : Rat) ^ Nat.log2 n ≤ n := by exact_mod_cast Nat.log2_self_le nonzero
  have most : (n : Rat) < 2 ^ (Nat.log2 n + 1) := by exact_mod_cast Nat.lt_log2_self
  have divisor : (2 : Rat) ^ Nat.log2 d ≤ d := by exact_mod_cast Nat.log2_self_le positive.ne'
  have divisorMost : (d : Rat) < 2 ^ (Nat.log2 d + 1) := by exact_mod_cast Nat.lt_log2_self
  have some : (0 : Rat) < d := Nat.cast_pos.mpr positive
  constructor
  · rw [sub_sub, zpow_sub₀ two_ne_zero, zpow_natCast, ← Nat.cast_one, ← Nat.cast_add, zpow_natCast]
    exact div_le_div₀ (Nat.cast_nonneg n) least some divisorMost.le
  · rw [← add_sub_right_comm, zpow_sub₀ two_ne_zero, zpow_natCast, ← Nat.cast_one, ← Nat.cast_add,
      zpow_natCast, div_lt_div_iff₀ some (by positivity)]
    calc (n : Rat) * 2 ^ Nat.log2 d < 2 ^ (Nat.log2 n + 1) * 2 ^ Nat.log2 d := by gcongr
      _ ≤ 2 ^ (Nat.log2 n + 1) * d := by gcongr

/-- A fraction is rounded where it has 53 bits before the point, unless that is too far down. -/
theorem exponentOf_eq (nonzero : n ≠ 0) (positive : 0 < d) :
    exponentOf n d = max (Int.log 2 (n / d : Rat) - 52) leastExponent := by
  have some : (0 : Rat) < n / d :=
    div_pos (Nat.cast_pos.mpr (Nat.pos_of_ne_zero nonzero)) (Nat.cast_pos.mpr positive)
  obtain ⟨lower, upper⟩ := log_bounds nonzero positive
  have least := (Int.zpow_le_iff_le_log one_lt_two some).mp lower
  have most := (Int.lt_zpow_iff_log_lt one_lt_two some).mp upper
  have scaled := scale_value n d ((Nat.log2 n : Int) - Nat.log2 d - 53)
  have denominator := scale_pos n ((Nat.log2 n : Int) - Nat.log2 d - 53) positive
  unfold exponentOf
  dsimp only
  generalize scale n d ((Nat.log2 n : Int) - Nat.log2 d - 53) = parts at scaled denominator ⊢
  have short : parts.1 / parts.2 < Nat.pow 2 53 ↔
      Int.log 2 (n / d : Rat) < (Nat.log2 n : Int) - Nat.log2 d := by
    have whole : parts.1 / parts.2 < Nat.pow 2 53 ↔ (parts.1 : Rat) / parts.2 < 2 ^ 53 := by
      rw [Nat.pow_eq, Nat.div_lt_iff_lt_mul denominator, div_lt_iff₀ (Nat.cast_pos.mpr denominator)]
      exact_mod_cast Iff.rfl
    have power : (2 : Rat) ^ 53 * 2 ^ ((Nat.log2 n : Int) - Nat.log2 d - 53) =
        2 ^ ((Nat.log2 n : Int) - Nat.log2 d) := by
      rw [← zpow_natCast, ← zpow_add₀ two_ne_zero]
      congr 1
      omega
    rw [whole, scaled, div_lt_iff₀ (zpow_pos two_pos _), power,
      ← Int.lt_zpow_iff_log_lt one_lt_two some, Nat.cast_ofNat]
  split
  next fits =>
    have := short.mp fits
    omega
  next large =>
    have := mt short.mpr large
    omega

theorem exponentOf_mul_left {c : Nat} (some : 0 < c) (nonzero : n ≠ 0) (positive : 0 < d) :
    exponentOf (c * n) (c * d) = exponentOf n d := by
  have same : ((c * n : Nat) : Rat) / (c * d : Nat) = n / d := by
    rw [Nat.cast_mul, Nat.cast_mul, mul_div_mul_left _ _ (Nat.cast_ne_zero.mpr some.ne')]
  rw [exponentOf_eq (Nat.mul_ne_zero some.ne' nonzero) (Nat.mul_pos some positive),
    exponentOf_eq nonzero positive, same]

/-! ## Fractions of one value -/

theorem ofFraction_mul_left {c : Nat} (negative : Bool) (some : 0 < c) (positive : 0 < d) :
    ofFraction negative (c * n) (c * d) = ofFraction negative n d := by
  by_cases none : n = 0
  · rw [none, Nat.mul_zero]
    rfl
  have product : c * n ≠ 0 := Nat.mul_ne_zero some.ne' none
  simp only [ofFraction, if_neg none, if_neg product, exponentOf_mul_left some none positive,
    scale_mul, roundDiv_mul_left some]

theorem ofFraction_congr {m k : Nat} (negative : Bool) (positive : 0 < d) (some : 0 < k)
    (same : (n : Rat) / d = m / k) : ofFraction negative n d = ofFraction negative m k := by
  have cross : k * n = d * m := by
    have left : (d : Rat) ≠ 0 := Nat.cast_ne_zero.mpr positive.ne'
    have right : (k : Rat) ≠ 0 := Nat.cast_ne_zero.mpr some.ne'
    rw [div_eq_div_iff left right] at same
    have product : n * k = m * d := by exact_mod_cast same
    rw [Nat.mul_comm k n, product, Nat.mul_comm]
  rw [← ofFraction_mul_left negative some positive, cross, Nat.mul_comm k d,
    ofFraction_mul_left negative positive some]

/-- A multiple of a power of two with no more than 53 bits is kept. -/
theorem ofFraction_kept {m : Nat} {e : Int} (negative : Bool) (positive : 0 < d) (bits : m < 2 ^ 53)
    (least : leastExponent ≤ e) (most : e < greatestExponent) (value : (n : Rat) / d = m * 2 ^ e) :
    ∃ mantissa exponent, ofFraction negative n d = .finite negative mantissa exponent ∧
      (mantissa : Rat) * 2 ^ exponent = n / d := by
  by_cases none : n = 0
  · refine ⟨0, leastExponent, ?_, ?_⟩
    · rw [ofFraction, if_pos none, zero]
    · simp [none]
  -- The exponent reaches down to the last bit of the fraction.
  have some : (0 : Rat) < n / d :=
    div_pos (Nat.cast_pos.mpr (Nat.pos_of_ne_zero none)) (Nat.cast_pos.mpr positive)
  have below : (n / d : Rat) < 2 ^ (e + 53) := by
    rw [value, zpow_add₀ two_ne_zero, mul_comm]
    have short : (m : Rat) < 2 ^ (53 : Int) := by exact_mod_cast bits
    exact mul_lt_mul_of_pos_left short (zpow_pos two_pos e)
  have log := (Int.lt_zpow_iff_log_lt one_lt_two some).mp below
  obtain ⟨low, exponent, t, rfl⟩ : ∃ low, exponentOf n d = low ∧ ∃ t : Nat, e = low + t := by
    refine ⟨exponentOf n d, rfl, (e - exponentOf n d).toNat, ?_⟩
    rw [exponentOf_eq none positive]
    omega
  have kept : ((m * 2 ^ t : Nat) : Rat) * 2 ^ low = n / d := by
    rw [value, zpow_add₀ two_ne_zero, zpow_natCast]
    push_cast
    ring
  have rounded : roundDiv (scale n d low).1 (scale n d low).2 = m * 2 ^ t := by
    have denominator := scale_pos n low positive
    have scaled := scale_value n d low
    rw [← kept, mul_div_cancel_right₀ _ (zpow_ne_zero low two_ne_zero),
      div_eq_iff (Nat.cast_ne_zero.mpr denominator.ne')] at scaled
    have numerator : (scale n d low).1 = m * 2 ^ t * (scale n d low).2 := by exact_mod_cast scaled
    rw [numerator, roundDiv_mul denominator]
  unfold ofFraction
  rw [if_neg none]
  simp only [exponent, rounded]
  by_cases full : m * 2 ^ t = Nat.pow 2 53
  · -- The carry into the next power of two does not change the number.
    refine ⟨Nat.pow 2 52, low + 1, ?_, ?_⟩
    · simp only [full, if_true]
      rw [if_neg (by omega)]
    · rw [← kept, full, zpow_add₀ two_ne_zero]
      norm_num
      ring
  · refine ⟨m * 2 ^ t, low, ?_, kept⟩
    simp only [full, if_false]
    rw [if_neg (by omega)]

/-! ## Products and quotients -/

theorem mul_finite {s t : Bool} {m k : Nat} {e f : Int} (positive : 0 < d)
    (value : (n : Rat) / d = m * 2 ^ e * (k * 2 ^ f)) :
    (finite s m e).mul (finite t k f) = ofFraction (s != t) n d := by
  change ofFraction (s != t) (scale (m * k) 1 (-(e + f))).1 (scale (m * k) 1 (-(e + f))).2 = _
  refine ofFraction_congr _ (scale_pos _ _ Nat.one_pos) positive ?_
  rw [scale_value, value, zpow_neg, zpow_add₀ two_ne_zero]
  push_cast
  field_simp

theorem div_finite {s t : Bool} {m k : Nat} {e f : Int} (some : k ≠ 0) (positive : 0 < d)
    (value : (n : Rat) / d = m * 2 ^ e / (k * 2 ^ f)) :
    (finite s m e).div (finite t k f) = ofFraction (s != t) n d := by
  rw [div, if_neg some]
  change ofFraction (s != t) (scale m k (f - e)).1 (scale m k (f - e)).2 = _
  refine ofFraction_congr _ (scale_pos _ _ (Nat.pos_of_ne_zero some)) positive ?_
  rw [scale_value, value, zpow_sub₀ two_ne_zero]
  field_simp

end StoreSchema.Binary64
