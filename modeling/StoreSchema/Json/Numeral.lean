import StoreSchema.Number.Binary64
import StoreSchema.Text.Decimal

/-! # Doubles in JSON texts

A numeral is read into a significand of 64 bits and a power of ten. Digits that the significand
cannot hold are dropped, and the significand and the power are rounded to doubles before they are
multiplied or divided. What is read of a long numeral may therefore be a neighbour of the nearest
double, and a numeral next to the greatest double may be out of range.
-/

namespace StoreSchema.Json.Numeral

/-- Appends digits to a significand as long as 64 bits hold it: the significand and the digits left
    over. -/
def gather (significand : Nat) : List Char → Nat × List Char
  | [] => (significand, [])
  | d :: ds =>
    let longer := 10 * significand + Text.digitValue d
    if longer < Nat.pow 2 64 then gather longer ds else (significand, d :: ds)

/-- The double nearest to a power of ten. -/
def powerOfTen (k : Nat) : Binary64 :=
  .ofFraction false (Nat.pow 10 k) 1

/-- The greatest power of ten that is still within the doubles. -/
def greatestPower : Nat := 308

/-- A finite double times a power of ten. Where the power is no double, the number is divided in
    steps, as long as something is left of it, or out of range. -/
def scaled : Binary64 → Int → Binary64
  | .finite negative mantissa e, power =>
    let number := Binary64.finite negative mantissa e
    if power.natAbs ≤ greatestPower then
      if 0 ≤ power then number.mul (powerOfTen power.natAbs)
      else number.div (powerOfTen power.natAbs)
    else if mantissa = 0 then number
    else if 0 ≤ power then .infinite negative
    else scaled (number.div (powerOfTen greatestPower)) (power + greatestPower)
  | other, _ => other
termination_by _ power => power.natAbs
decreasing_by
  unfold greatestPower at *
  omega

/-- The double that the digits before and after the point and the exponent are read as; a numeral
    that is out of range is read as infinite. -/
def double (negative : Bool) (whole fraction : List Char) (exponent : Int) : Binary64 :=
  let (significand, beyond) := gather 0 whole
  let (significand, dropped) := gather significand fraction
  scaled (.ofFraction negative significand 1)
    (exponent + beyond.length - (fraction.length - dropped.length))

end StoreSchema.Json.Numeral
