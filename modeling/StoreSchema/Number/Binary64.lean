/-! # Double precision numbers

A double is a signed multiple of a power of two with at most 53 significant bits. Exact fractions,
those of products and quotients included, are rounded once, to the nearest double and to the even
one of two equally near.
-/

namespace StoreSchema

/-- A double precision number. A finite one is `± mantissa * 2 ^ exponent`, with the mantissa
    below `2 ^ 53` and, unless the exponent is the least one, not below `2 ^ 52`. -/
inductive Binary64 where
  | finite (negative : Bool) (mantissa : Nat) (exponent : Int)
  | infinite (negative : Bool)
  | nan
  deriving Repr, DecidableEq

namespace Binary64

/-- The exponent of the smallest positive double. -/
def leastExponent : Int := -1074

/-- The exponent of the largest finite doubles. -/
def greatestExponent : Int := 971

def zero (negative : Bool) : Binary64 :=
  .finite negative 0 leastExponent

/-- The fraction `n / d` divided by `2 ^ e`, as a fraction of natural numbers. -/
def scale (n d : Nat) (e : Int) : Nat × Nat :=
  if 0 ≤ e then (n, d * Nat.pow 2 e.toNat) else (n * Nat.pow 2 (-e).toNat, d)

/-- The natural number nearest to `n / d`; a half goes to the even neighbour. -/
def roundDiv (n d : Nat) : Nat :=
  let q := n / d
  let r := n % d
  if 2 * r < d then q
  else if d < 2 * r then q + 1
  else if q % 2 = 0 then q else q + 1

/-- The exponent at which `n / d` has 53 bits before the point, or the least exponent if that is
    greater. -/
def exponentOf (n d : Nat) : Int :=
  let k : Int := (Nat.log2 n : Int) - (Nat.log2 d : Int)
  let (a, b) := scale n d (k - 53)
  max (if a / b < Nat.pow 2 53 then k - 53 else k - 52) leastExponent

/-- The double nearest to `± n / d`. -/
def ofFraction (negative : Bool) (n d : Nat) : Binary64 :=
  if n = 0 then zero negative
  else
    let e := exponentOf n d
    let (a, b) := scale n d e
    let m := roundDiv a b
    let (m, e) := if m = Nat.pow 2 53 then (Nat.pow 2 52, e + 1) else (m, e)
    if greatestExponent < e then .infinite negative else .finite negative m e

def ofInt (n : Int) : Binary64 :=
  ofFraction (n < 0) n.natAbs 1

/-- The double nearest to a rational number. -/
def ofRat (q : Rat) : Binary64 :=
  ofFraction (q.num < 0) q.num.natAbs q.den

/-- The double nearest to `± n * 10 ^ e`. Numbers far outside the range of doubles are recognised
    by their digit count, before any power of ten is formed. -/
def ofDecimal (negative : Bool) (n digitCount : Nat) (e : Int) : Binary64 :=
  if n = 0 then zero negative
  else if 310 < digitCount + e then .infinite negative
  else if digitCount + e < -330 then zero negative
  else if 0 ≤ e then ofFraction negative (n * Nat.pow 10 e.toNat) 1
  else ofFraction negative n (Nat.pow 10 (-e).toNat)

/-- The product of two doubles. -/
def mul : Binary64 → Binary64 → Binary64
  | .finite s m e, .finite t n f =>
    let (a, b) := scale (m * n) 1 (-(e + f))
    ofFraction (s != t) a b
  | .finite s m _, .infinite t | .infinite s, .finite t m _ =>
    if m = 0 then .nan else .infinite (s != t)
  | .infinite s, .infinite t => .infinite (s != t)
  | .nan, _ | _, .nan => .nan

/-- The quotient of two doubles. -/
def div : Binary64 → Binary64 → Binary64
  | .finite s m e, .finite t n f =>
    if n = 0 then (if m = 0 then .nan else .infinite (s != t))
    else
      let (a, b) := scale m n (f - e)
      ofFraction (s != t) a b
  | .finite s _ _, .infinite t => zero (s != t)
  | .infinite s, .finite t _ _ => .infinite (s != t)
  | .infinite _, .infinite _ => .nan
  | .nan, _ | _, .nan => .nan

/-- The rational number that a finite double stands for. -/
def toRat? : Binary64 → Option Rat
  | .finite negative mantissa exponent =>
    let magnitude : Rat := (mantissa : Rat) * (2 : Rat) ^ exponent
    some (if negative then -magnitude else magnitude)
  | _ => none

end Binary64

end StoreSchema
