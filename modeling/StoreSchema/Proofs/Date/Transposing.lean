import StoreSchema.Proofs.Date.Gaps

/-! # Moments in other years

A moment can be told in another year, at the same place of it, if both are leap years or neither is:
then nothing but the year and the weekday is told differently. The years from 1970 to 2069 and the
first hundred years, by their last two digits, are such years.
-/

namespace StoreSchema

namespace Calendar

theorem isLeap_ofCentury {year : Int} (range : 1970 ≤ year ∧ year ≤ 2069) :
    isLeap year = isLeap (year % 100) := by
  unfold isLeap
  congr 1
  · rw [decide_eq_decide]
    omega
  · congr 1
    · rw [decide_eq_decide]
      omega
    · rw [decide_eq_decide]
      omega

/-- The day at the same place of another year. -/
def inYear (day year : Int) : Int :=
  day - firstDay (date day).year + firstDay year

theorem date_inYear {day year : Int} (same : isLeap (date day).year = isLeap year) :
    date (inYear day year) = { date day with year } := by
  obtain ⟨least, most, place⟩ := yearDay_spec day
  have known : (date day).year = (yearDay day).year := rfl
  have lengths : yearLength (yearDay day).year = yearLength year := by
    rw [yearLength, yearLength, ← known, same]
  have months : monthLengths (yearDay day).year = monthLengths year := by
    rw [monthLengths, monthLengths, ← known, same]
  have moved : inYear day year = firstDay year + ((yearDay day).ordinal - 1 : Nat) := by
    rw [inYear, known]
    omega
  rw [date, moved, yearDay_of_place (by omega), Nat.sub_add_cancel least, ← months]
  rfl

end Calendar

namespace Moment

variable {m : Moment} {year : Int}

/-- The moment at the same place of another year. -/
def inYear (m : Moment) (year : Int) : Moment :=
  { m with
    seconds := m.seconds + (Calendar.firstDay year - Calendar.firstDay m.year) * secondsPerDay }

theorem toLocal_inYear (same : Calendar.isLeap m.year = Calendar.isLeap year) :
    ∃ weekday, (m.inYear year).toLocal =
      { m.toLocal with date := { m.toLocal.date with year }, weekday } := by
  obtain ⟨day, time, within, -, told⟩ := exists_time m
  have shown := (congrArg toLocal told).trans (toLocal_of_time within)
  have years : m.year = (Calendar.date day).year := by rw [Moment.year, shown]
  have moved : m.inYear year =
      ⟨Calendar.inYear day year * secondsPerDay + time - m.offset, m.nanos, m.offset⟩ := by
    have seconds := congrArg Moment.seconds told
    simp only at seconds
    rw [inYear, seconds, years, Calendar.inYear, mk.injEq]
    refine ⟨?_, rfl, rfl⟩
    rw [secondsPerDay]
    omega
  rw [years] at same
  refine ⟨Calendar.weekday (Calendar.inYear day year), ?_⟩
  rw [moved, toLocal_of_time within, Calendar.date_inYear same, shown]

theorem Writable.inYear (writable : m.Writable)
    (same : Calendar.isLeap m.year = Calendar.isLeap year) (range : 0 ≤ year ∧ year ≤ 9999) :
    (m.inYear year).Writable where
  year := by
    obtain ⟨weekday, shown⟩ := toLocal_inYear same
    rw [Moment.year, shown]
    exact range
  offset := writable.offset
  wholeMinutes := writable.wholeMinutes
  nanos := writable.nanos
  leap := by
    intro leap
    have last := writable.leap leap
    simp only [Moment.inYear, secondsPerDay]
    omega

end Moment

namespace Date

variable {items : List Item} {m : Moment} {year : Int}

theorem print_inYear (same : Calendar.isLeap m.year = Calendar.isLeap year)
    (unambiguous : clear items) (noYear : writes items .year = false) :
    items.flatMap (Item.print (m.inYear year).toLocal (m.inYear year).offset) =
      items.flatMap (Item.print m.toLocal m.offset) := by
  obtain ⟨weekday, shown⟩ := Moment.toLocal_inYear same
  induction items with
  | nil => rfl
  | cons item rest ih =>
      obtain ⟨here, later⟩ : item.writes .year = false ∧ writes rest .year = false :=
        Bool.or_eq_false_iff.mp noYear
      rw [List.flatMap_cons, List.flatMap_cons, ih (clear_tail unambiguous) later, shown]
      congr 1
      cases item with
      | number part padded =>
          simp only [clear, Bool.and_eq_true] at unambiguous
          cases part with
          | year => cases here
          | yearOfCentury | halfDayHour => cases unambiguous.1.1
          | month | day | ordinal | hour | minute | second => rfl
      | literal | fraction | offset => rfl
      | space | shortMonth | longMonth | shortWeekday | longWeekday | halfDay | pointed | bare =>
          cases unambiguous

theorem Component.shown_inYear (same : Calendar.isLeap m.year = Calendar.isLeap year)
    {component : Component} (other : component ≠ .year) :
    component.shown (m.inYear year) = component.shown m := by
  obtain ⟨weekday, shown⟩ := Moment.toLocal_inYear same
  cases component with
  | year => exact absurd rfl other
  | offset => rfl
  | month | day | hour | minute | second | nanos => simp only [Component.shown, shown]

end Date

end StoreSchema
