import StoreSchema.Number.Binary64
import StoreSchema.Text.Decimal

/-! # Reading numbers

Integers and doubles written out in a text of their own, as they stand between the commas and
blanks of a coordinate pair or inside a date.
-/

namespace StoreSchema.Number

/-- Splits off a leading sign: whether it is a minus, and the rest. -/
def sign : List Char → Bool × List Char
  | '-' :: rest => (true, rest)
  | '+' :: rest => (false, rest)
  | text => (false, text)

/-- The least and the greatest integer of 64 bits. -/
def leastInt : Int := -Nat.pow 2 63

/-- The greatest integer of 64 bits. -/
def greatestInt : Int := Nat.pow 2 63 - 1

/-- An integer of 64 bits: an optional sign and digits, and nothing else. -/
def int? (text : List Char) : Option Int :=
  let (negative, ds) := sign text
  if ds.isEmpty || !ds.all Char.isDigit then none
  else
    let n : Int := if negative then -(Text.ofDigits ds : Int) else Text.ofDigits ds
    if leastInt ≤ n ∧ n ≤ greatestInt then some n else none

/-- An exponent after its letter: an optional sign and digits, and nothing else. -/
def exponent? (text : List Char) : Option Int :=
  let (negative, ds) := sign text
  if ds.isEmpty || !ds.all Char.isDigit then none
  else some (if negative then -(Text.ofDigits ds : Int) else Text.ofDigits ds)

/-- The double denoted by digits before and after the point and an exponent. -/
def ofParts (negative : Bool) (whole fraction : List Char) (exponent : Int) : Binary64 :=
  let ds := (whole ++ fraction).dropWhile (· == '0')
  Binary64.ofDecimal negative (Text.ofDigits ds) ds.length (exponent - fraction.length)

/-- A double: an optional sign, then digits with at most one point among them and an optional
    exponent, or a name of infinity or of no number, in any case. -/
def double? (text : List Char) : Option Binary64 :=
  let (negative, body) := sign text
  let word := String.ofList (body.map Char.toLower)
  if word = "inf" ∨ word = "infinity" then some (.infinite negative)
  else if word = "nan" then some .nan
  else
    let whole := body.takeWhile Char.isDigit
    let afterWhole := body.dropWhile Char.isDigit
    let (fraction, rest) := match afterWhole with
      | '.' :: more => (more.takeWhile Char.isDigit, more.dropWhile Char.isDigit)
      | _ => ([], afterWhole)
    if whole.isEmpty && fraction.isEmpty then none
    else match rest with
      | [] => some (ofParts negative whole fraction 0)
      | 'e' :: more | 'E' :: more => (exponent? more).map (ofParts negative whole fraction)
      | _ => none

end StoreSchema.Number
