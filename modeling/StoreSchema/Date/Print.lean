import StoreSchema.Date.Layout
import StoreSchema.Date.Moment
import StoreSchema.Date.Names

/-! # Writing dates

Each item writes its part of what clock and calendar show at the moment.
-/

namespace StoreSchema.Date

/-- A number with a number of digits, or as short as it is. -/
def numberChars (padded : Bool) (width n : Nat) : List Char :=
  if padded then Text.padded width n else Text.digits n

/-- The value of a number at a moment, and its width when it is padded. -/
def NumberPart.value (part : NumberPart) (time : Moment.Local) : Nat × Nat :=
  match part with
  | .year => (4, time.date.year.toNat)
  | .yearOfCentury => (2, (time.date.year % 100).toNat)
  | .month => (2, time.date.month)
  | .day => (2, time.date.day)
  | .ordinal => (3, time.date.ordinal)
  | .hour => (2, time.hour)
  | .halfDayHour => (2, if time.hour % 12 = 0 then 12 else time.hour % 12)
  | .minute => (2, time.minute)
  | .second => (2, time.second)

/-- The digits of a fraction with a fixed number of them. -/
def Precision.chars (precision : Precision) (nanos : Nat) : List Char :=
  Text.padded precision.digits (nanos / Nat.pow 10 (9 - precision.digits))

/-- What an item writes at a moment, for years from 0 to 9999. -/
def Item.print (time : Moment.Local) (offset : Int) : Item → List Char
  | .literal text | .space text => text
  | .number part padded => numberChars padded (part.value time).1 (part.value time).2
  | .shortMonth => shortName monthNames (time.date.month - 1)
  | .longMonth => nameAt monthNames (time.date.month - 1)
  | .shortWeekday => shortName weekdayNames time.weekday
  | .longWeekday => nameAt weekdayNames time.weekday
  | .halfDay => if time.hour < 12 then ['A', 'M'] else ['P', 'M']
  | .fraction => Moment.fractionChars time.nanos
  | .pointed precision => '.' :: precision.chars time.nanos
  | .bare precision => precision.chars time.nanos
  | .offset => if offset = 0 then ['Z'] else Moment.offsetChars offset

/-- What a layout writes at a moment, for years from 0 to 9999. -/
def Layout.print (layout : Layout) (moment : Moment) : List Char :=
  layout.items.flatMap (Item.print moment.toLocal moment.offset)

end StoreSchema.Date
