import StoreSchema.Number.Binary64
import StoreSchema.Text.Decimal

/-! # Shortest decimal text of a double

Among the decimals that round to a double, the text has the fewest digits, and of those it is the
nearest. For one to seventeen digits the two neighbours of the double on that decimal grid are
tested in exact arithmetic; the first grid with a hit wins.
-/

namespace StoreSchema.Binary64

/-- The numbers that round to a double, as multiples `low`, `value` and `high` of the fraction
    `num / den`; the ends belong to the interval when `closed`. -/
structure Interval where
  low : Nat
  value : Nat
  high : Nat
  num : Nat
  den : Nat
  closed : Bool

/-- The interval of a positive finite double. Below a power of two the neighbours lie half as far
    away. -/
def interval (mantissa : Nat) (exponent : Int) : Interval :=
  let (num, den) := scale 1 1 (2 - exponent)
  let narrow := mantissa = Nat.pow 2 52 ∧ leastExponent < exponent
  { low := if narrow then 4 * mantissa - 1 else 4 * mantissa - 2
    value := 4 * mantissa
    high := 4 * mantissa + 2
    num := num
    den := den
    closed := mantissa % 2 = 0 }

/-- The exponent `k` with `10 ^ k ≤ n / d < 10 ^ (k + 1)`, for positive `n` and `d`. -/
def decimalExponent (n d : Nat) : Int :=
  if d ≤ n then ((Text.digits (n / d)).length : Int) - 1
  else
    let k := (Text.digits (d / n)).length
    if d ≤ n * Nat.pow 10 (k - 1) then -((k : Int) - 1) else -(k : Int)

/-- The nearest multiple of `10 ^ grid` in the interval, if the interval holds one next to its
    value. -/
def Interval.hit? (i : Interval) (grid : Int) : Option Nat :=
  let (up, down) := if 0 ≤ grid then (Nat.pow 10 grid.toNat, 1) else (1, Nat.pow 10 (-grid).toNat)
  let unit := up * i.den
  let scaled (multiple : Nat) := multiple * i.num * down
  let below := scaled i.value / unit
  let inside (c : Nat) : Bool :=
    if i.closed then scaled i.low ≤ c * unit && c * unit ≤ scaled i.high
    else scaled i.low < c * unit && c * unit < scaled i.high
  let rest := scaled i.value - below * unit
  match inside below, inside (below + 1) with
  | true, true =>
    if 2 * rest < unit then some below
    else if unit < 2 * rest then some (below + 1)
    else if below % 2 = 0 then some below else some (below + 1)
  | true, false => some below
  | false, true => some (below + 1)
  | false, false => none

/-- The digits of the shortest decimal of a positive finite double, and the exponent of the last
    one. Seventeen digits always suffice. -/
def shortest (mantissa : Nat) (exponent : Int) : Nat × Int :=
  let i := interval mantissa exponent
  let k := decimalExponent (i.value * i.num) i.den
  let grids := (List.range 17).map fun (count : Nat) => k - count
  match grids.findSome? fun grid => (i.hit? grid).map fun c => (c, grid) with
  | some found => found
  | none => (0, 0)

/-- The text of a positive number given by its decimal digits and the exponent of the last one: in
    positional notation when the exponent of the first digit is at least -5 and below 16, in
    scientific notation otherwise. -/
def decimalText (ds : List Char) (last : Int) : List Char :=
  let first := last + ds.length - 1
  if first < -5 ∨ 16 ≤ first then
    let fraction := match ds.tail with
      | [] => []
      | more => '.' :: more
    ds.take 1 ++ fraction ++ ['e', if first < 0 then '-' else '+'] ++ Text.digits first.natAbs
  else if first < 0 then
    ['0', '.'] ++ List.replicate ((-first).toNat - 1) '0' ++ ds
  else if 0 ≤ last then
    ds ++ List.replicate last.toNat '0' ++ ['.', '0']
  else
    ds.take (first.toNat + 1) ++ ['.'] ++ ds.drop (first.toNat + 1)

/-- The digits of a number without the zeros at its end, which move into the exponent. -/
def stripZeros (n : Nat) (last : Int) : List Char × Int :=
  let back := (Text.digits n).reverse
  let zeros := (back.takeWhile (· == '0')).length
  ((back.drop zeros).reverse, last + zeros)

/-- The text of a finite double; a double without one is `none`. -/
def text? : Binary64 → Option (List Char)
  | .finite negative mantissa exponent =>
    let magnitude :=
      if mantissa = 0 then ['0', '.', '0']
      else
        let (n, last) := shortest mantissa exponent
        let (ds, last) := stripZeros n last
        decimalText ds last
    some (if negative then '-' :: magnitude else magnitude)
  | _ => none

end StoreSchema.Binary64
