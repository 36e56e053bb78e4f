import StoreSchema.Date.Moment

/-! # Parts of a date

What a layout has read so far. A part is set once: a second reading has to agree with the first.
Parts that are missing in the end are filled up, from the date down to the offset, and parts that
say the same thing twice have to agree.
-/

namespace StoreSchema.Date

/-- Why a text is no date of a layout. -/
inductive Misread where
  | outOfRange
  | impossible
  | notEnough
  | invalid
  | tooShort
  | trailing
  | noLocalTime
  deriving Repr, DecidableEq

def Misread.message : Misread → String
  | .outOfRange => "input is out of range"
  | .impossible => "no possible date and time matching input"
  | .notEnough => "input is not enough for unique date and time"
  | .invalid => "input contains invalid characters"
  | .tooShort => "premature end of input"
  | .trailing => "trailing input"
  | .noLocalTime => "local time does not exist at this offset"

/-- The parts read so far. The hour falls into the half of the day and the hour within it. -/
structure Parts where
  year : Option Int := none
  yearOfCentury : Option Int := none
  month : Option Int := none
  day : Option Int := none
  ordinal : Option Int := none
  weekday : Option Int := none
  halfDay : Option Int := none
  halfDayHour : Option Int := none
  minute : Option Int := none
  second : Option Int := none
  nanos : Option Int := none
  offset : Option Int := none
  deriving Repr, DecidableEq

namespace Parts

/-- Sets one part. Without a value it takes the new one, with a value it has to agree. -/
def agree (old : Option Int) (value : Int) : Except Misread (Option Int) :=
  match old with
  | none => .ok (some value)
  | some known => if known = value then .ok (some known) else .error .impossible

/-- Refuses a value outside a range. -/
def inRange (low high value : Int) : Except Misread Unit :=
  if low ≤ value ∧ value ≤ high then .ok () else .error .outOfRange

def setYear (value : Int) (parts : Parts) : Except Misread Parts := do
  inRange (-Nat.pow 2 31) (Nat.pow 2 31 - 1) value
  let year ← agree parts.year value
  pure { parts with year }

/-- Sets the last two digits of the year. -/
def setYearOfCentury (value : Int) (parts : Parts) : Except Misread Parts := do
  inRange 0 99 value
  let yearOfCentury ← agree parts.yearOfCentury value
  pure { parts with yearOfCentury }

def setMonth (value : Int) (parts : Parts) : Except Misread Parts := do
  inRange 1 12 value
  let month ← agree parts.month value
  pure { parts with month }

def setDay (value : Int) (parts : Parts) : Except Misread Parts := do
  inRange 1 31 value
  let day ← agree parts.day value
  pure { parts with day }

def setOrdinal (value : Int) (parts : Parts) : Except Misread Parts := do
  inRange 1 366 value
  let ordinal ← agree parts.ordinal value
  pure { parts with ordinal }

def setWeekday (value : Int) (parts : Parts) : Except Misread Parts := do
  let weekday ← agree parts.weekday value
  pure { parts with weekday }

def setHalfDay (value : Int) (parts : Parts) : Except Misread Parts := do
  let halfDay ← agree parts.halfDay value
  pure { parts with halfDay }

/-- Sets the hour within its half of the day, where twelve stands for zero. -/
def setHalfDayHour (value : Int) (parts : Parts) : Except Misread Parts := do
  inRange 1 12 value
  let halfDayHour ← agree parts.halfDayHour (value % 12)
  pure { parts with halfDayHour }

def setHour (value : Int) (parts : Parts) : Except Misread Parts := do
  inRange 0 23 value
  let halfDay ← agree parts.halfDay (value / 12)
  let halfDayHour ← agree parts.halfDayHour (value % 12)
  pure { parts with halfDay, halfDayHour }

def setMinute (value : Int) (parts : Parts) : Except Misread Parts := do
  inRange 0 59 value
  let minute ← agree parts.minute value
  pure { parts with minute }

/-- Sets the second; the sixtieth is a leap second. -/
def setSecond (value : Int) (parts : Parts) : Except Misread Parts := do
  inRange 0 60 value
  let second ← agree parts.second value
  pure { parts with second }

def setNanos (value : Int) (parts : Parts) : Except Misread Parts := do
  inRange 0 999999999 value
  let nanos ← agree parts.nanos value
  pure { parts with nanos }

/-- Sets the offset in seconds. -/
def setOffset (value : Int) (parts : Parts) : Except Misread Parts := do
  let offset ← agree parts.offset value
  pure { parts with offset }

/-! ## The date -/

/-- The year. Two digits alone mean a year from 1970 to 2069; beside a full year they have to be
    its last two, and the full year must not be negative. -/
def fullYear (parts : Parts) : Except Misread (Option Int) :=
  match parts.year, parts.yearOfCentury with
  | year, none => .ok year
  | some year, some two =>
    if 0 ≤ year ∧ year % 100 = two then .ok (some year) else .error .impossible
  | none, some two => .ok (some (if two < 70 then 2000 + two else 1900 + two))

/-- Whether a part is missing or has a value. -/
def allows (part : Option Int) (value : Int) : Bool :=
  part.all (· == value)

/-- Whether a day agrees with the weekday and the day of the year. -/
def allowsDay (parts : Parts) (day : Int) : Bool :=
  allows parts.weekday (Calendar.weekday day) && allows parts.ordinal (Calendar.date day).ordinal

/-- Whether a day agrees with the month and the day of the month. -/
def allowsMonth (parts : Parts) (day : Int) : Bool :=
  allows parts.month (Calendar.date day).month && allows parts.day (Calendar.date day).day

/-- The day that the parts determine: by year, month and day of the month, else by year and day of
    the year. -/
def calendarDay (parts : Parts) : Except Misread Int := do
  let year ← parts.fullYear
  match year, parts.month, parts.day, parts.ordinal with
  | some year, some month, some dayOfMonth, _ =>
    match Calendar.ofDate? year month.toNat dayOfMonth.toNat with
    | some day => if parts.allowsDay day then .ok day else .error .impossible
    | none => .error .outOfRange
  | some year, _, _, some ordinal =>
    match Calendar.ofOrdinal? year ordinal.toNat with
    | some day =>
      if parts.allowsMonth day && parts.allowsDay day then .ok day else .error .impossible
    | none => .error .outOfRange
  | _, _, _, _ => .error .notEnough

/-- Fills a gap: a part that disagrees stays as it is. -/
def fill (set : Parts → Except Misread Parts) (parts : Parts) : Parts :=
  match set parts with
  | .ok filled => filled
  | .error _ => parts

/-- Tries once more with gaps filled if there was not enough. -/
def orFill (read : Parts → Except Misread α) (fillGaps : Parts → Parts)
    (next : Parts → Except Misread α) (parts : Parts) : Except Misread α :=
  match read parts with
  | .error .notEnough => next (fillGaps parts)
  | result => result

/-- The day, with January the first and then 1970 for what is missing. -/
def filledDay (parts : Parts) : Except Misread Int :=
  orFill calendarDay (fun parts => fill (setDay 1) (fill (setMonth 1) parts))
    (orFill calendarDay (fill (setYear 1970)) calendarDay) parts

/-! ## The time -/

/-- The second of the day and the nanoseconds that the parts determine. -/
def clockTime (parts : Parts) : Except Misread (Nat × Nat) :=
  match parts.halfDay, parts.halfDayHour, parts.minute with
  | some half, some hour, some minute =>
    let (second, leap) := if parts.second = some 60 then (59, 1000000000)
      else (parts.second.getD 0, 0)
    if parts.second.isNone && parts.nanos.isSome then .error .notEnough
    else
      .ok (((12 * half + hour) * 3600 + minute * 60 + second).toNat,
        (leap + parts.nanos.getD 0).toNat)
  | _, _, _ => .error .notEnough

/-- Fills up an hour as midnight, half by half: the first half stays filled when the second one
    disagrees. -/
def fillHour (parts : Parts) : Parts :=
  match agree parts.halfDay 0 with
  | .ok halfDay => fill (fun parts => do
      let halfDayHour ← agree parts.halfDayHour 0
      pure { parts with halfDayHour }) { parts with halfDay }
  | .error _ => parts

/-- The time of day, with midnight for what is missing. -/
def filledTime (parts : Parts) : Except Misread (Nat × Nat) :=
  orFill clockTime (fun parts => fill (setMinute 0) parts.fillHour) clockTime parts

/-- The offset, zero if there is none. -/
def filledOffset (parts : Parts) : Except Misread Int :=
  match parts.offset with
  | none => .ok 0
  | some offset => if -86400 < offset ∧ offset < 86400 then .ok offset else .error .outOfRange

/-- The moment that the parts determine. -/
def toMoment (parts : Parts) : Except Misread Moment := do
  let day ← parts.filledDay
  let (second, nanos) ← parts.filledTime
  let offset ← parts.filledOffset
  match Moment.ofLocal? day second nanos offset with
  | some moment => .ok moment
  | none => .error .noLocalTime

end Parts

end StoreSchema.Date
