import StoreSchema.Number.Binary64

/-! # Geohashes

Each symbol of a geohash halves its cell five times, east and west in turn with north and south.
The point that a geohash stands for is the centre of its cell.
-/

namespace StoreSchema.Geohash

/-- The symbols, in the order of their numbers. -/
def alphabet : List Char :=
  "0123456789bcdefghjkmnpqrstuvwxyz".toList

/-- The number of a symbol, of either case. -/
def value? (c : Char) : Option Nat :=
  alphabet.findIdx? (· == c.toLower)

/-- The five bits of a number, the highest first. -/
def bits (n : Nat) : List Bool :=
  [n / 16 % 2 = 1, n / 8 % 2 = 1, n / 4 % 2 = 1, n / 2 % 2 = 1, n % 2 = 1]

/-- An interval of degrees. -/
structure Range where
  low : Rat
  high : Rat
  deriving Repr, DecidableEq

namespace Range

def middle (range : Range) : Rat :=
  (range.low + range.high) / 2

/-- The upper or the lower half of an interval. -/
def half (range : Range) (upper : Bool) : Range :=
  if upper then { range with low := range.middle } else { range with high := range.middle }

end Range

/-- A cell: the interval that is halved next, and the other one. -/
structure Cell where
  next : Range
  other : Range
  deriving Repr, DecidableEq

/-- Halves a cell once. -/
def Cell.halve (cell : Cell) (upper : Bool) : Cell :=
  ⟨cell.other, cell.next.half upper⟩

/-- The whole globe; the longitude is halved first. -/
def globe : Cell :=
  ⟨⟨-180, 180⟩, ⟨-90, 90⟩⟩

/-- The bits of a geohash. -/
def allBits : List Char → Option (List Bool)
  | [] => some []
  | c :: rest => do
    let n ← value? c
    let others ← allBits rest
    pure (bits n ++ others)

/-- The greatest number of symbols. -/
def greatestLength : Nat := 12

/-- The latitude and the longitude of the centre of a cell, after an even or an odd number of
    halvings. -/
def Cell.centre (cell : Cell) (even : Bool) : Rat × Rat :=
  if even then (cell.other.middle, cell.next.middle) else (cell.next.middle, cell.other.middle)

/-- The latitude and the longitude that a geohash stands for. -/
def centre? (hash : List Char) : Option (Rat × Rat) :=
  if hash.isEmpty || greatestLength < hash.length then none
  else
    (allBits hash).map fun path =>
      (path.foldl Cell.halve globe).centre (path.length % 2 = 0)

end StoreSchema.Geohash
