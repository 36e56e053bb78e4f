/-! # Decimal digits

Natural numbers and integers in decimal notation, without sign or zero padding of their own.
-/

namespace StoreSchema.Text

def digitChar (d : Nat) : Char :=
  Char.ofNat (0x30 + d)

def digitValue (c : Char) : Nat :=
  c.toNat - 0x30

/-- The decimal digits of a natural number; zero has one. -/
def digits (n : Nat) : List Char :=
  if n < 10 then [digitChar n] else digits (n / 10) ++ [digitChar (n % 10)]

/-- The number that a row of digits denotes. -/
def ofDigits (ds : List Char) : Nat :=
  ds.foldl (fun n d => 10 * n + digitValue d) 0

/-- The digits of a number, filled up with zeros on the left to at least `width`. -/
def padded (width n : Nat) : List Char :=
  let ds := digits n
  List.replicate (width - ds.length) '0' ++ ds

/-- An integer in decimal notation; only negative numbers carry a sign. -/
def ofInt (n : Int) : List Char :=
  if n < 0 then '-' :: digits n.natAbs else digits n.natAbs

/-- The value of an ASCII hexadecimal digit. -/
def hexValue? (c : Char) : Option Nat :=
  if c.isDigit then some (c.toNat - 0x30)
  else if 'a' ≤ c && c ≤ 'f' then some (c.toNat - 0x61 + 10)
  else if 'A' ≤ c && c ≤ 'F' then some (c.toNat - 0x41 + 10)
  else none

/-- The small hexadecimal digit of a number below sixteen. -/
def hexChar (d : Nat) : Char :=
  if d < 10 then Char.ofNat (0x30 + d) else Char.ofNat (0x61 + (d - 10))

/-- The hexadecimal digits of a natural number; zero has one. -/
def hexDigits (n : Nat) : List Char :=
  if n < 16 then [hexChar n] else hexDigits (n / 16) ++ [hexChar (n % 16)]

end StoreSchema.Text
