import StoreSchema.Date.Calendar
import StoreSchema.Text.Decimal

/-! # Moments

A point on the time line together with the offset at which it is told. Leap seconds repeat the
second before them, with a billion or more nanoseconds.
-/

namespace StoreSchema

/-- A moment: seconds since 1970-01-01 at offset zero, nanoseconds, which reach a billion in a leap
    second, and the offset in seconds east. -/
structure Moment where
  seconds : Int
  nanos : Nat
  offset : Int
  deriving Repr, DecidableEq

namespace Moment

def secondsPerDay : Int := 86400

def nanosPerSecond : Nat := 1000000000

def epoch : Moment := ⟨0, 0, 0⟩

/-- What a clock and a calendar show at a moment, at its offset. -/
structure Local where
  date : Calendar.Date
  weekday : Nat
  hour : Nat
  minute : Nat
  second : Nat
  nanos : Nat
  deriving Repr, DecidableEq

/-- What a clock and a calendar show. A leap second is shown as one second more. -/
def toLocal (m : Moment) : Local :=
  let s := m.seconds + m.offset
  let day := s / secondsPerDay
  let time := (s % secondsPerDay).toNat
  { date := Calendar.date day
    weekday := Calendar.weekday day
    hour := time / 3600
    minute := time / 60 % 60
    second := time % 60 + m.nanos / nanosPerSecond
    nanos := m.nanos % nanosPerSecond }

def year (m : Moment) : Int :=
  m.toLocal.date.year

/-- The moment at which a clock shows a time of day on a day, at an offset. Both the day there and
    the day at offset zero must be days of the calendar. -/
def ofLocal? (day : Int) (secondOfDay nanos : Nat) (offset : Int) : Option Moment :=
  let seconds := day * secondsPerDay + secondOfDay - offset
  if Calendar.hasDay (seconds / secondsPerDay) then some ⟨seconds, nanos, offset⟩ else none

/-- Moments are ordered by the time line; the offset does not count. -/
def compare (a b : Moment) : Ordering :=
  (Ord.compare a.seconds b.seconds).then (Ord.compare a.nanos b.nanos)

/-! ## Texts -/

/-- An offset as sign, hours and minutes, rounded to the nearest minute. -/
def offsetChars (offset : Int) : List Char :=
  let minutes := (offset.natAbs + 30) / 60
  (if offset < 0 then '-' else '+') ::
    Text.padded 2 (minutes / 60) ++ ':' :: Text.padded 2 (minutes % 60)

/-- A fraction of a second: nothing, or a point and three, six or nine digits, whatever suffices. -/
def fractionChars (nanos : Nat) : List Char :=
  if nanos = 0 then []
  else if nanos % 1000000 = 0 then '.' :: Text.padded 3 (nanos / 1000000)
  else if nanos % 1000 = 0 then '.' :: Text.padded 6 (nanos / 1000)
  else '.' :: Text.padded 9 nanos

/-- A year with at least four digits; one that needs more, or is negative, carries its sign. -/
def yearChars (year : Int) : List Char :=
  if 0 ≤ year && year ≤ 9999 then Text.padded 4 year.toNat
  else (if year < 0 then '-' else '+') :: Text.padded 4 year.natAbs

def chars (m : Moment) : List Char :=
  let c := m.toLocal
  yearChars c.date.year ++ '-' :: Text.padded 2 c.date.month ++ '-' :: Text.padded 2 c.date.day ++
    'T' :: Text.padded 2 c.hour ++ ':' :: Text.padded 2 c.minute ++ ':' :: Text.padded 2 c.second ++
    fractionChars c.nanos ++ offsetChars m.offset

def text (m : Moment) : String :=
  String.ofList m.chars

/-- The seconds since 1970; a leap second counts as the second before it. -/
def epochSeconds (m : Moment) : Int :=
  m.seconds

/-- The milliseconds since 1970; those of a leap second reach into the next second. -/
def epochMillis (m : Moment) : Int :=
  m.seconds * 1000 + m.nanos / 1000000

end Moment

end StoreSchema
