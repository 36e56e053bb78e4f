import StoreSchema.Json.Numeral
import StoreSchema.Number.Reading
import StoreSchema.Proofs.Number.Rounding
import StoreSchema.Proofs.Text.Decimal

/-! # Short numerals

Where the digits of a numeral fit into 53 bits and its power of ten is a double, the one product or
quotient is all that is rounded. A JSON text then holds the same double as a text of its own, which
is the nearest one.
-/

namespace StoreSchema

open Text (ofDigits)

variable {negative : Bool} {n : Nat} {power : Int}

/-- The double nearest to a number times a power of ten. -/
def Binary64.nearest (negative : Bool) (n : Nat) (power : Int) : Binary64 :=
  if 0 ≤ power then .ofFraction negative (n * 10 ^ power.natAbs) 1
  else .ofFraction negative n (10 ^ power.natAbs)

namespace Json.Numeral

theorem gather_fits (front ds : List Char) (fits : ofDigits (front ++ ds) < 2 ^ 64) :
    gather (ofDigits front) ds = (ofDigits (front ++ ds), []) := by
  induction ds generalizing front with
  | nil => rw [gather, List.append_nil]
  | cons d ds ih =>
      rw [List.append_cons] at fits ⊢
      have longer := (Text.ofDigits_le_append (front ++ [d]) ds).trans_lt fits
      rw [gather, ← Text.ofDigits_concat]
      exact (if_pos longer).trans (ih _ fits)

/-- The powers of ten up to the twenty-second are doubles. -/
theorem powerOfTen_kept {k : Nat} (small : k ≤ 22) :
    ∃ m e, powerOfTen k = .finite false m e ∧ (m : Rat) * 2 ^ e = 10 ^ k := by
  have bits : 5 ^ k < 2 ^ 53 := (Nat.pow_le_pow_right (by decide) small).trans_lt (by decide)
  have value : ((10 ^ k : Nat) : Rat) / (1 : Nat) = (5 ^ k : Nat) * 2 ^ (k : Int) := by
    rw [Nat.cast_one, div_one, zpow_natCast]
    push_cast
    rw [← mul_pow]
    norm_num
  obtain ⟨m, e, kept, same⟩ := Binary64.ofFraction_kept false Nat.one_pos bits
    (by unfold Binary64.leastExponent; omega) (by unfold Binary64.greatestExponent; omega) value
  refine ⟨m, e, kept, same.trans ?_⟩
  rw [Nat.cast_one, div_one, Nat.cast_pow, Nat.cast_ofNat]

theorem scaled_of_short (short : n < 2 ^ 53) (near : power.natAbs ≤ 22) :
    scaled (.ofFraction negative n 1) power = .nearest negative n power := by
  have unit : (n : Rat) / (1 : Nat) = n * 2 ^ (0 : Int) := by simp
  obtain ⟨m, e, kept, value⟩ := Binary64.ofFraction_kept negative Nat.one_pos short
    (by decide) (by decide) unit
  obtain ⟨k, f, ten, tenValue⟩ := powerOfTen_kept near
  rw [kept, scaled]
  simp only [ten]
  rw [if_pos (near.trans (by decide)), Binary64.nearest]
  split
  next =>
    have product : ((n * 10 ^ power.natAbs : Nat) : Rat) / (1 : Nat) = m * 2 ^ e * (k * 2 ^ f) := by
      rw [value, tenValue]
      simp
    rw [Binary64.mul_finite Nat.one_pos product, Bool.bne_false]
  next =>
    have some : k ≠ 0 := by
      rintro rfl
      rw [Nat.cast_zero, zero_mul] at tenValue
      exact pow_ne_zero _ (by norm_num) tenValue.symm
    have quotient : (n : Rat) / (10 ^ power.natAbs : Nat) = m * 2 ^ e / (k * 2 ^ f) := by
      rw [value, tenValue]
      simp
    rw [Binary64.div_finite some (pow_pos (by decide) _) quotient, Bool.bne_false]

end Json.Numeral

/-! ## Both readers -/

theorem Binary64.ofDecimal_of_near {count : Nat} (most : count + power ≤ 310)
    (least : -330 ≤ count + power) : ofDecimal negative n count power = nearest negative n power := by
  unfold ofDecimal nearest
  by_cases none : n = 0
  · simp [none, ofFraction]
  rw [if_neg none, if_neg (by omega), if_neg (by omega)]
  split
  next whole =>
    have same : power.toNat = power.natAbs := by omega
    rw [same]
    rfl
  next part =>
    have same : (-power).toNat = power.natAbs := by omega
    rw [same]
    rfl

/-- A short numeral in a JSON text is the double that the same numeral is in a text of its own. -/
theorem Json.Numeral.double_of_short {whole fraction : List Char} {exponent : Int}
    (digits : ∀ c ∈ whole ++ fraction, c.isDigit) (short : ofDigits (whole ++ fraction) < 2 ^ 53)
    (near : (exponent - fraction.length).natAbs ≤ 22) :
    double negative whole fraction exponent = Number.ofParts negative whole fraction exponent := by
  have fits : ofDigits (whole ++ fraction) < 2 ^ 64 := short.trans (by decide)
  have wholeFits := (Text.ofDigits_le_append whole fraction).trans_lt fits
  have front : gather 0 whole = (ofDigits whole, []) := gather_fits [] whole wholeFits
  have few := Text.length_dropWhile_le 16 digits (short.trans (by decide))
  rw [double, front]
  simp only [gather_fits whole fraction fits, List.length_nil, Nat.cast_zero, add_zero, sub_zero]
  rw [scaled_of_short short near, Number.ofParts, Text.ofDigits_dropWhile,
    Binary64.ofDecimal_of_near (by omega) (by omega)]

/-- A longer numeral next to the greatest double is out of range, though not in a text of its own. -/
example :
    Json.Numeral.double false ['1'] "7976931348623158".toList 308 = .infinite false ∧
      Number.ofParts false ['1'] "7976931348623158".toList 308 = .finite false (2 ^ 53 - 1) 971 := by
  with_unfolding_all decide +kernel

end StoreSchema
