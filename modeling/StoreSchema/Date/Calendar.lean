/-! # The calendar

Days of the proleptic Gregorian calendar, numbered from 1970-01-01, and their years, months and
weekdays.
-/

namespace StoreSchema.Calendar

def isLeap (year : Int) : Bool :=
  year % 4 = 0 && (year % 100 ≠ 0 || year % 400 = 0)

def monthLengths (year : Int) : List Nat :=
  [31, if isLeap year then 29 else 28, 31, 30, 31, 30, 31, 31, 30, 31, 30, 31]

def yearLength (year : Int) : Nat :=
  if isLeap year then 366 else 365

/-- The days of the calendar before the first day of a year, counted from the year 1. -/
def daysBefore (year : Int) : Int :=
  let y := year - 1
  365 * y + y / 4 - y / 100 + y / 400

def firstDay (year : Int) : Int :=
  daysBefore year - daysBefore 1970

/-- A day by its year and its place in the year, which counts from one. -/
structure YearDay where
  year : Int
  ordinal : Nat
  deriving Repr, DecidableEq

/-- The year of a day and its place in it. Cycles of 400, 100, 4 and 1 years are taken off; the
    last day of a leap cycle still belongs to its last year. -/
def yearDay (day : Int) : YearDay :=
  let n := day + daysBefore 1970
  let c400 := n / 146097
  let n := n % 146097
  let c100 := min (n / 36524) 3
  let n := n - 36524 * c100
  let c4 := n / 1461
  let n := n % 1461
  let c1 := min (n / 365) 3
  ⟨400 * c400 + 100 * c100 + 4 * c4 + c1 + 1, (n - 365 * c1 + 1).toNat⟩

/-- The month and the day of the month at a place in the year, for months that begin with number
    `month` and have the given lengths. -/
def monthDay (month : Nat) : List Nat → Nat → Nat × Nat
  | [], ordinal => (month, ordinal)
  | length :: rest, ordinal =>
    if ordinal ≤ length then (month, ordinal) else monthDay (month + 1) rest (ordinal - length)

structure Date where
  year : Int
  month : Nat
  day : Nat
  ordinal : Nat
  deriving Repr, DecidableEq

def date (day : Int) : Date :=
  let d := yearDay day
  let (month, dayOfMonth) := monthDay 1 (monthLengths d.year) d.ordinal
  ⟨d.year, month, dayOfMonth, d.ordinal⟩

/-- The day of the week, counted from Monday as zero. -/
def weekday (day : Int) : Nat :=
  ((day + 3) % 7).toNat

/-- The first and the last year in which days are told apart. -/
def leastYear : Int := -262143

/-- The last year in which days are told apart. -/
def greatestYear : Int := 262142

/-- Whether days of a year are told apart. -/
def hasYear (year : Int) : Bool :=
  leastYear ≤ year && year ≤ greatestYear

def hasDay (day : Int) : Bool :=
  firstDay leastYear ≤ day && day < firstDay (greatestYear + 1)

/-- The day with a place in a year. -/
def ofOrdinal? (year : Int) (ordinal : Nat) : Option Int :=
  if hasYear year && 1 ≤ ordinal && ordinal ≤ yearLength year then
    some (firstDay year + (ordinal - 1))
  else none

def daysBeforeMonth (year : Int) (month : Nat) : Nat :=
  ((monthLengths year).take (month - 1)).foldl (· + ·) 0

/-- The day with a month and a day of the month. -/
def ofDate? (year : Int) (month day : Nat) : Option Int :=
  if hasYear year && 1 ≤ month && 1 ≤ day then
    match (monthLengths year)[month - 1]? with
    | some length =>
      if day ≤ length then
        some (firstDay year + daysBeforeMonth year month + (day - 1))
      else none
    | none => none
  else none

end StoreSchema.Calendar
