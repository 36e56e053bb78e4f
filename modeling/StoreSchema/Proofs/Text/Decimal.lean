import Mathlib.Algebra.Ring.Nat
import Mathlib.Data.List.Induction
import Mathlib.Data.List.TakeWhile
import StoreSchema.Text.Decimal

/-! # Reading what was written in digits

The digits of a number denote it, however many zeros stand before them. A padded number has as many
digits as it is padded to, unless it needs more.
-/

namespace StoreSchema.Text

/-! ## Single digits -/

theorem digitChar_toNat {d : Nat} (small : d < 10) : (digitChar d).toNat = 0x30 + d := by
  have each : ∀ d < 10, (digitChar d).toNat = 0x30 + d := by decide
  exact each d small

theorem digitValue_digitChar {d : Nat} (small : d < 10) : digitValue (digitChar d) = d := by
  rw [digitValue, digitChar_toNat small]
  omega

theorem isDigit_iff {c : Char} : c.isDigit ↔ 48 ≤ c.toNat ∧ c.toNat ≤ 57 := by
  simp only [Char.isDigit, Bool.and_eq_true, decide_eq_true_eq, ge_iff_le, UInt32.le_iff_toNat_le]
  rfl

theorem isDigit_digitChar {d : Nat} (small : d < 10) : (digitChar d).isDigit := by
  have code := digitChar_toNat small
  rw [isDigit_iff]
  omega

theorem digitValue_le {c : Char} (digit : c.isDigit) : digitValue c ≤ 9 := by
  rw [isDigit_iff] at digit
  unfold digitValue
  omega

/-! ## Rows of digits -/

theorem ofDigits_concat (ds : List Char) (d : Char) :
    ofDigits (ds ++ [d]) = 10 * ofDigits ds + digitValue d := by
  simp [ofDigits]

theorem ofDigits_le_append (ds more : List Char) : ofDigits ds ≤ ofDigits (ds ++ more) := by
  induction more using List.reverseRecOn with
  | nil => rw [List.append_nil]
  | append_singleton more d ih =>
      rw [← List.append_assoc, ofDigits_concat]
      omega

theorem ofDigits_digits (n : Nat) : ofDigits (digits n) = n := by
  induction n using Nat.strongRecOn with
  | ind n ih =>
      rw [digits]
      split
      next small => simp [ofDigits, digitValue_digitChar small]
      next large =>
        rw [ofDigits_concat, ih (n / 10) (by omega), digitValue_digitChar (by omega)]
        omega

theorem isDigit_of_mem_digits {n : Nat} {c : Char} (inside : c ∈ digits n) : c.isDigit := by
  induction n using Nat.strongRecOn with
  | ind n ih =>
      rw [digits] at inside
      split at inside
      next small =>
        cases List.mem_singleton.mp inside
        exact isDigit_digitChar small
      next large =>
        cases List.mem_append.mp inside with
        | inl early => exact ih (n / 10) (by omega) early
        | inr last =>
            cases List.mem_singleton.mp last
            exact isDigit_digitChar (by omega)

theorem digits_ne_nil (n : Nat) : digits n ≠ [] := by
  rw [digits]
  split <;> simp

theorem length_digits_le {n width : Nat} (positive : 0 < width) (bound : n < 10 ^ width) :
    (digits n).length ≤ width := by
  induction width generalizing n with
  | zero => omega
  | succ width ih =>
      rw [digits]
      split
      next => simp
      next large =>
        have wide : 0 < width := by
          refine Nat.pos_of_ne_zero ?_
          intro zero
          subst zero
          omega
        have shorter : n / 10 < 10 ^ width := by
          rw [Nat.pow_succ] at bound
          omega
        have rest := ih wide shorter
        simp only [List.length_append, List.length_singleton]
        omega

theorem ofDigits_lt {ds : List Char} (digits : ∀ c ∈ ds, c.isDigit) :
    ofDigits ds < 10 ^ ds.length := by
  induction ds using List.reverseRecOn with
  | nil => simp [ofDigits]
  | append_singleton ds d ih =>
      have before := ih fun c inside => digits c (List.mem_append_left [d] inside)
      have last := digitValue_le (digits d (by simp))
      rw [ofDigits_concat, List.length_append, List.length_singleton, Nat.pow_succ]
      omega

theorem pow_le_ofDigits {d : Char} (digit : d.isDigit) (leading : d ≠ '0') (ds : List Char) :
    10 ^ ds.length ≤ ofDigits (d :: ds) := by
  induction ds using List.reverseRecOn with
  | nil =>
      have code : d.toNat ≠ 48 := fun same => leading (Char.ext (UInt32.toNat_inj.mp same))
      rw [isDigit_iff] at digit
      simp only [List.length_nil, Nat.pow_zero, ofDigits, List.foldl_cons, List.foldl_nil,
        digitValue]
      omega
  | append_singleton ds last ih =>
      rw [← List.cons_append, ofDigits_concat, List.length_append, List.length_singleton,
        Nat.pow_succ]
      omega

/-! ## Leading zeros -/

theorem padded_eq (width n : Nat) :
    padded width n = List.replicate (width - (digits n).length) '0' ++ digits n := rfl

theorem ofDigits_zeros (count : Nat) (ds : List Char) :
    ofDigits (List.replicate count '0' ++ ds) = ofDigits ds := by
  have zeros : ofDigits (List.replicate count '0') = 0 := by
    induction count with
    | zero => rfl
    | succ count ih =>
        rw [List.replicate_succ', ofDigits_concat, ih]
        rfl
  rw [ofDigits, List.foldl_append]
  rw [ofDigits] at zeros
  rw [zeros]
  rfl

theorem ofDigits_dropWhile (ds : List Char) : ofDigits (ds.dropWhile (· == '0')) = ofDigits ds := by
  have parts : ds.takeWhile (· == '0') ++ ds.dropWhile (· == '0') = ds :=
    List.takeWhile_append_dropWhile
  have zeros : ∀ c ∈ ds.takeWhile (· == '0'), c = '0' := by
    intro c inside
    simpa using List.mem_takeWhile_imp inside
  rw [List.eq_replicate_of_mem zeros] at parts
  conv => rhs; rw [← parts, ofDigits_zeros]

theorem length_dropWhile_le {ds : List Char} (width : Nat) (digits : ∀ c ∈ ds, c.isDigit)
    (bound : ofDigits ds < 10 ^ width) : (ds.dropWhile (· == '0')).length ≤ width := by
  rw [← ofDigits_dropWhile] at bound
  cases left : ds.dropWhile (· == '0') with
  | nil => exact Nat.zero_le width
  | cons d rest =>
      have inside : d ∈ ds := (List.dropWhile_sublist _).subset (left ▸ List.mem_cons_self)
      have leading : d ≠ '0' := by
        have head := List.head?_dropWhile_not (· == '0') ds
        simpa [left] using head
      have least := pow_le_ofDigits (digits d inside) leading rest
      rw [left] at bound
      exact Nat.pow_lt_pow_iff_right (by decide) |>.mp (least.trans_lt bound)

theorem ofDigits_padded (width n : Nat) : ofDigits (padded width n) = n := by
  rw [padded_eq, ofDigits_zeros, ofDigits_digits]

theorem isDigit_of_mem_padded {width n : Nat} {c : Char} (inside : c ∈ padded width n) :
    c.isDigit := by
  rw [padded_eq] at inside
  cases List.mem_append.mp inside with
  | inl zero =>
      rw [List.eq_of_mem_replicate zero]
      rfl
  | inr digit => exact isDigit_of_mem_digits digit

theorem length_padded {width n : Nat} (positive : 0 < width) (bound : n < 10 ^ width) :
    (padded width n).length = width := by
  have short := length_digits_le positive bound
  rw [padded_eq, List.length_append, List.length_replicate]
  omega

end StoreSchema.Text
