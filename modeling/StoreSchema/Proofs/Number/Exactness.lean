import StoreSchema.Proofs.Number.Rounding

/-! # Numbers that are doubles

A fraction of a power of two with no more than 53 bits is a double, so that nothing is lost when it
is rounded. Numbers that are not too large round to finite doubles.
-/

namespace StoreSchema.Binary64

/-! ## Doubles that are not rounded -/

/-- The number with a sign. -/
def signed (negative : Bool) (q : Rat) : Rat :=
  if negative then -q else q

theorem toRat?_finite (negative : Bool) (m : Nat) (e : Int) :
    (finite negative m e).toRat? = some (signed negative (m * 2 ^ e)) := rfl

/-- A number that is a double: rounding it loses nothing. -/
def Exact (q : Rat) : Prop :=
  (ofRat q).toRat? = some q

theorem signed_abs (q : Rat) : signed (q.num < 0) |q| = q := by
  by_cases negative : q.num < 0
  · rw [signed, decide_eq_true negative, if_pos rfl, abs_of_neg (Rat.num_neg.mp negative), neg_neg]
  · have positive : 0 ≤ q := Rat.num_nonneg.mp (not_lt.mp negative)
    rw [signed, decide_eq_false negative, if_neg Bool.false_ne_true, abs_of_nonneg positive]

theorem exact_of_dyadic {n : Int} {k : Nat} (bits : n.natAbs < 2 ^ 53) (fine : k ≤ 1074) :
    Exact (n / 2 ^ k) := by
  generalize same : (n / 2 ^ k : Rat) = q
  have den : (0 : Rat) ≤ q.den := Nat.cast_nonneg q.den
  have size : (q.num.natAbs : Rat) / q.den = |q| := by
    rw [Nat.cast_natAbs, Int.cast_abs, ← abs_of_nonneg den, ← abs_div, Rat.num_div_den]
  have power : (0 : Rat) < 2 ^ k := pow_pos two_pos k
  have value : |q| = n.natAbs * 2 ^ (-(k : Int)) := by
    rw [← same, abs_div, abs_of_pos power, Nat.cast_natAbs, Int.cast_abs, zpow_neg, zpow_natCast,
      div_eq_mul_inv]
  obtain ⟨mantissa, exponent, kept, rounded⟩ := ofFraction_kept (q.num < 0) q.pos bits
    (by unfold leastExponent; omega) (by unfold greatestExponent; omega) (size.trans value)
  rw [Exact, ofRat, kept, toRat?_finite, rounded, size, signed_abs]

/-! ## Finite doubles -/

/-- A double with a value. -/
def IsFinite (double : Binary64) : Prop :=
  ∃ negative mantissa exponent, double = .finite negative mantissa exponent

theorem isFinite_ofFraction (negative : Bool) {n : Nat} (d : Nat) (bits : Nat.log2 n < 1000) :
    IsFinite (ofFraction negative n d) := by
  have upper := exponentOf_le n d
  unfold leastExponent at upper
  have near : ¬ greatestExponent < exponentOf n d + 1 := by
    unfold greatestExponent
    omega
  unfold ofFraction
  by_cases none : n = 0
  · rw [if_pos none]
    exact ⟨negative, 0, leastExponent, rfl⟩
  · rw [if_neg none]
    dsimp only
    split
    next => exact ⟨_, _, _, rfl⟩
    next => exact ⟨_, _, _, if_neg (by omega)⟩

end StoreSchema.Binary64
