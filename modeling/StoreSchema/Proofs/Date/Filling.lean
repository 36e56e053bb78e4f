import StoreSchema.Proofs.Date.Gaps
import StoreSchema.Proofs.Date.Numerals

/-! # Gaps of numbers

Where the parts of a date are numbers, the day that they determine shows them, and January the first
of 1970 for the gaps: a gap in the year, or in month and day unless a day of the year stands beside
the year. The time shows them as well, and midnight for the gaps, but a fraction needs a second.
-/

namespace StoreSchema

namespace Calendar

theorem ofDate?_eq_some_iff {year day : Int} {month dayOfMonth : Nat} :
    ofDate? year month dayOfMonth = some day ↔
      hasYear year ∧ (date day).year = year ∧ (date day).month = month ∧
        (date day).day = dayOfMonth := by
  constructor
  · intro read
    refine ⟨?_, ofDate?_eq_some read⟩
    unfold ofDate? at read
    split at read
    next valid =>
      simp only [Bool.and_eq_true] at valid
      exact valid.1.1
    next => cases read
  · rintro ⟨known, rfl, rfl, rfl⟩
    exact (shown day).ofDate known

theorem ofOrdinal?_eq_some_iff {year day : Int} {ordinal : Nat} :
    ofOrdinal? year ordinal = some day ↔
      hasYear year ∧ (date day).year = year ∧ (date day).ordinal = ordinal := by
  constructor
  · intro read
    refine ⟨?_, ofOrdinal?_eq_some read⟩
    unfold ofOrdinal? at read
    split at read
    next valid =>
      simp only [Bool.and_eq_true] at valid
      exact valid.1.1
    next => cases read
  · rintro ⟨known, rfl, rfl⟩
    exact (shown day).ofOrdinal known

end Calendar

namespace Date

namespace Parts

variable {parts : Parts}

/-! ## The day -/

/-- What is shown agrees with a part, if the part is known. -/
def Shows (part : Option Int) (shown : Int) : Prop :=
  ∀ value, part = some value → shown = value

theorem shows_some {value shown : Int} : Shows (some value) shown ↔ shown = value := by
  simp [Shows]

theorem shows_getD {part : Option Int} {shown value : Int} :
    shown = part.getD value ↔ Shows part shown ∧ (part = none → shown = value) := by
  cases part with
  | none => simp [Shows]
  | some held => simp [shows_some]

theorem allows_iff {part : Option Int} {shown : Int} : allows part shown ↔ Shows part shown := by
  cases part with
  | none => simp [allows, Shows]
  | some value =>
      rw [shows_some]
      simpa [allows] using eq_comm

/-- A day of the calendar shows what is known of it. -/
structure OnDay (parts : Parts) (here : Int) : Prop where
  known : Calendar.hasYear (Calendar.date here).year
  year : Shows parts.year (Calendar.date here).year
  month : Shows parts.month (Calendar.date here).month
  day : Shows parts.day (Calendar.date here).day
  ordinal : Shows parts.ordinal (Calendar.date here).ordinal

/-- The day that was found, if it fits. -/
def checked (found : Option Int) (fits : Int → Bool) : Except Misread Int :=
  match found with
  | some day => if fits day then .ok day else .error .impossible
  | none => .error .outOfRange

theorem checked_eq_ok {found : Option Int} {fits : Int → Bool} {day : Int} :
    checked found fits = .ok day ↔ found = some day ∧ fits day := by
  unfold checked
  constructor
  · intro ok
    split at ok
    next =>
      split at ok
      next fit =>
        cases ok
        exact ⟨rfl, fit⟩
      next => cases ok
    next => cases ok
  · rintro ⟨rfl, fit⟩
    simp [fit]

theorem checked_ne_notEnough (found : Option Int) (fits : Int → Bool) :
    checked found fits ≠ .error .notEnough := by
  unfold checked
  split
  next => split <;> nofun
  next => nofun

/-- Whether there is a year, and with it a month and a day or a day of the year. -/
def enough (parts : Parts) : Bool :=
  parts.year.isSome && (parts.month.isSome && parts.day.isSome || parts.ordinal.isSome)

theorem calendarDay_of_less (numeric : parts.Numeric) (less : parts.enough = false) :
    calendarDay parts = .error .notEnough := by
  rw [calendarDay, fullYear, numeric.yearOfCentury]
  unfold enough at less
  cases hasYear : parts.year <;> cases hasMonth : parts.month <;> cases hasDay : parts.day <;>
    cases hasOrdinal : parts.ordinal <;> simp_all

theorem allowsDay_iff (numeric : parts.Numeric) {day : Int} :
    parts.allowsDay day ↔ Shows parts.ordinal (Calendar.date day).ordinal := by
  rw [allowsDay, numeric.weekday, Bool.and_eq_true, allows_iff, allows_iff]
  simp [Shows]

theorem allowsMonth_iff {day : Int} :
    parts.allowsMonth day ↔
      Shows parts.month (Calendar.date day).month ∧ Shows parts.day (Calendar.date day).day := by
  rw [allowsMonth, Bool.and_eq_true, allows_iff, allows_iff]

/-- With enough parts, the day is looked up and checked against the parts that are left over. -/
inductive Looked (parts : Parts) : Prop where
  | date {year month day : Int} (hasYear : parts.year = some year)
      (hasMonth : parts.month = some month) (hasDay : parts.day = some day)
      (read : calendarDay parts =
        checked (Calendar.ofDate? year month.toNat day.toNat) parts.allowsDay)
  | ordinal {year ordinal : Int} (hasYear : parts.year = some year)
      (hasOrdinal : parts.ordinal = some ordinal)
      (read : calendarDay parts = checked (Calendar.ofOrdinal? year ordinal.toNat)
        fun day => parts.allowsMonth day && parts.allowsDay day)

theorem looked (numeric : parts.Numeric) (enough : parts.enough) : parts.Looked := by
  simp only [Parts.enough, Bool.and_eq_true, Bool.or_eq_true, Option.isSome_iff_exists] at enough
  obtain ⟨⟨year, hasYear⟩, rest⟩ := enough
  by_cases dated : (∃ month, parts.month = some month) ∧ ∃ day, parts.day = some day
  · obtain ⟨⟨month, hasMonth⟩, day, hasDay⟩ := dated
    refine .date hasYear hasMonth hasDay ?_
    simp only [calendarDay, fullYear, hasYear, numeric.yearOfCentury, hasMonth, hasDay,
      Outcome.ok_bind]
    rfl
  · obtain ⟨ordinal, hasOrdinal⟩ := rest.resolve_left dated
    refine .ordinal hasYear hasOrdinal ?_
    simp only [calendarDay, fullYear, hasYear, numeric.yearOfCentury, hasOrdinal, Outcome.ok_bind]
    cases hasMonth : parts.month with
    | none => rfl
    | some month =>
        cases hasDay : parts.day with
        | none => rfl
        | some day => exact absurd ⟨⟨month, hasMonth⟩, day, hasDay⟩ dated

theorem calendarDay_of_enough (numeric : parts.Numeric) (enough : parts.enough) :
    calendarDay parts ≠ .error .notEnough := by
  cases looked numeric enough with
  | date _ _ _ read => exact read ▸ checked_ne_notEnough _ _
  | ordinal _ _ read => exact read ▸ checked_ne_notEnough _ _

theorem calendarDay_eq_ok (numeric : parts.Numeric) (enough : parts.enough) {day : Int} :
    calendarDay parts = .ok day ↔ parts.OnDay day := by
  cases looked numeric enough with
  | @date year month dayOfMonth hasYear hasMonth hasDay read =>
      have months := numeric.month month hasMonth
      have days := numeric.day dayOfMonth hasDay
      rw [read, checked_eq_ok, Calendar.ofDate?_eq_some_iff, allowsDay_iff numeric]
      constructor
      · rintro ⟨⟨known, same, monthSame, daySame⟩, place⟩
        refine ⟨same ▸ known, ?_, ?_, ?_, place⟩
        · rwa [hasYear, shows_some]
        · rw [hasMonth, shows_some]
          omega
        · rw [hasDay, shows_some]
          omega
      · rintro ⟨known, year, month, day, place⟩
        rw [hasYear, shows_some] at year
        rw [hasMonth, shows_some] at month
        rw [hasDay, shows_some] at day
        exact ⟨⟨year ▸ known, year, by omega, by omega⟩, place⟩
  | @ordinal year place hasYear hasOrdinal read =>
      have places := numeric.ordinal place hasOrdinal
      rw [read, checked_eq_ok, Calendar.ofOrdinal?_eq_some_iff, Bool.and_eq_true, allowsMonth_iff,
        allowsDay_iff numeric]
      constructor
      · rintro ⟨⟨known, same, -⟩, ⟨month, day⟩, place⟩
        refine ⟨same ▸ known, ?_, month, day, place⟩
        rwa [hasYear, shows_some]
      · rintro ⟨known, year, month, day, place⟩
        have here := place
        rw [hasYear, shows_some] at year
        rw [hasOrdinal, shows_some] at here
        exact ⟨⟨year ▸ known, year, by omega⟩, ⟨month, day⟩, place⟩

/-- Parts with a year, and with month and day unless there is a year with a day of it. -/
def dated (parts : Parts) : Parts :=
  if parts.year.isSome && parts.ordinal.isSome then parts
  else { parts with
    year := some (parts.year.getD 1970)
    month := some (parts.month.getD 1)
    day := some (parts.day.getD 1) }

theorem dated_numeric (numeric : parts.Numeric) : parts.dated.Numeric := by
  unfold dated
  split
  next => exact numeric
  next =>
    refine { numeric with month := .some ?_, day := .some ?_ }
    · cases known : parts.month with
      | none => simp
      | some month => exact numeric.month month known
    · cases known : parts.day with
      | none => simp
      | some day => exact numeric.day day known

theorem dated_enough (parts : Parts) : parts.dated.enough := by
  unfold dated
  split
  next both =>
    rw [Bool.and_eq_true] at both
    simp [enough, both]
  next => simp [enough]

theorem getD_known {part : Option Int} (known : part.isSome) (value : Int) :
    some (part.getD value) = part := by
  obtain ⟨held, rfl⟩ := Option.isSome_iff_exists.mp known
  rfl

theorem filledDay_eq (numeric : parts.Numeric) : filledDay parts = calendarDay parts.dated := by
  have filled := calendarDay_of_enough (dated_numeric numeric) (dated_enough parts)
  unfold filledDay
  by_cases enough : parts.enough
  · have same : parts.dated = parts := by
      simp only [Parts.enough, Bool.and_eq_true, Bool.or_eq_true] at enough
      obtain ⟨hasYear, ⟨hasMonth, hasDay⟩ | hasOrdinal⟩ := enough
      · unfold dated
        rw [getD_known hasYear, getD_known hasMonth, getD_known hasDay, ite_self]
      · simp [dated, hasYear, hasOrdinal]
    rw [same] at filled ⊢
    exact orFill_of_enough filled
  · rw [Bool.not_eq_true] at enough
    rw [orFill_of_less (calendarDay_of_less numeric enough)]
    simp only [fill_month, fill_day]
    rcases parts.year.eq_none_or_eq_some with noYear | ⟨year, hasYear⟩
    · have same : parts.dated = { parts with
          year := some 1970, month := some (parts.month.getD 1)
          day := some (parts.day.getD 1) } := by
        simp [dated, noYear]
      have less : calendarDay { parts with
          month := some (parts.month.getD 1), day := some (parts.day.getD 1) } =
            .error .notEnough := by
        apply calendarDay_of_less
        · refine { numeric with month := ?_, day := ?_ }
          · have month := (dated_numeric numeric).month
            rwa [same] at month
          · have day := (dated_numeric numeric).day
            rwa [same] at day
        · simp [Parts.enough, noYear]
      rw [orFill_of_less less, same]
      simp only [fill_year, noYear, Option.getD_none]
    · have noOrdinal : parts.ordinal.isSome = false := by
        simp_all [Parts.enough]
      have same : parts.dated = { parts with
          month := some (parts.month.getD 1), day := some (parts.day.getD 1) } := by
        simp [dated, noOrdinal, hasYear]
      rw [same] at filled ⊢
      exact orFill_of_enough filled

theorem filledDay_eq_ok (numeric : parts.Numeric) {day : Int} :
    filledDay parts = .ok day ↔ parts.dated.OnDay day := by
  rw [filledDay_eq numeric, calendarDay_eq_ok (dated_numeric numeric) (dated_enough parts)]

/-- A gap in the year, or in month and day where the day of the year does not stand for them beside
    a year, is January the first of 1970. -/
theorem dated_onDay {day : Int} :
    parts.dated.OnDay day ↔
      parts.OnDay day ∧ (parts.year = none → (Calendar.date day).year = 1970) ∧
        (parts.year = none ∨ parts.ordinal = none →
          (parts.month = none → ((Calendar.date day).month : Int) = 1) ∧
          (parts.day = none → ((Calendar.date day).day : Int) = 1)) := by
  unfold dated
  split
  next both =>
    obtain ⟨hasYear, hasOrdinal⟩ := Bool.and_eq_true_iff.mp both
    rw [Option.isSome_iff_ne_none] at hasYear hasOrdinal
    simp [hasYear, hasOrdinal]
  next apart =>
    have gap : parts.year = none ∨ parts.ordinal = none := by
      rw [Bool.and_eq_true, Option.isSome_iff_ne_none, Option.isSome_iff_ne_none] at apart
      tauto
    constructor
    · rintro ⟨known, year, month, dayOfMonth, ordinal⟩
      simp only [shows_some, shows_getD] at year month dayOfMonth
      exact ⟨⟨known, year.1, month.1, dayOfMonth.1, ordinal⟩, year.2, fun _ =>
        ⟨month.2, dayOfMonth.2⟩⟩
    · rintro ⟨⟨known, year, month, dayOfMonth, ordinal⟩, noYear, rest⟩
      obtain ⟨noMonth, noDay⟩ := rest gap
      refine ⟨known, ?_, ?_, ?_, ordinal⟩
      · exact shows_some.mpr (shows_getD.mpr ⟨year, noYear⟩)
      · exact shows_some.mpr (shows_getD.mpr ⟨month, noMonth⟩)
      · exact shows_some.mpr (shows_getD.mpr ⟨dayOfMonth, noDay⟩)

/-! ## The time -/

/-- Parts with an hour and a minute, midnight where there are none. -/
def clocked (parts : Parts) : Parts :=
  { parts with
    halfDay := some (parts.hour?.getD 0 / 12)
    halfDayHour := some (parts.hour?.getD 0 % 12)
    minute := some (parts.minute.getD 0) }

/-- A time and a fraction are what is known of them, and zero where nothing is known. A fraction is
    not known without a second. -/
def OnClock (parts : Parts) (time nanos : Nat) : Prop :=
  (parts.second = none → parts.nanos = none) ∧
    ShownAt time nanos (parts.hour?.getD 0) (parts.minute.getD 0) (parts.second.getD 0)
      (parts.nanos.getD 0)

theorem ShownAt.unique {time nanos otherTime otherNanos : Nat}
    {hour minute second fraction : Int} (shown : ShownAt time nanos hour minute second fraction)
    (other : ShownAt otherTime otherNanos hour minute second fraction) :
    time = otherTime ∧ nanos = otherNanos := by
  obtain ⟨within, hours, minutes, seconds, fractions, bound, leap⟩ := shown
  obtain ⟨within', hours', minutes', seconds', fractions', bound', leap'⟩ := other
  omega

theorem getD_within {part : Option Int} {low high value : Int} (within : Within low high part)
    (default : low ≤ value ∧ value ≤ high) :
    low ≤ part.getD value ∧ part.getD value ≤ high := by
  cases known : part with
  | none => exact default
  | some held => exact within held known

theorem clockTime_lone (noSecond : parts.second = none) (fraction : parts.nanos ≠ none) :
    clockTime parts = .error .notEnough := by
  have lone : (parts.second.isNone && parts.nanos.isSome) = true := by
    simp [noSecond, Option.isSome_iff_ne_none, fraction]
  unfold clockTime
  split
  next => simp only [lone, if_true]
  next => rfl

theorem clockTime_clocked (numeric : parts.Numeric) {time nanos : Nat} :
    clockTime parts.clocked = .ok (time, nanos) ↔ parts.OnClock time nanos := by
  have hours := getD_within numeric.hour (show (0 : Int) ≤ 0 ∧ (0 : Int) ≤ 23 by decide)
  have minutes := getD_within numeric.minute (show (0 : Int) ≤ 0 ∧ (0 : Int) ≤ 59 by decide)
  by_cases beside : parts.second = none → parts.nanos = none
  · have found : ∃ time nanos, clockTime parts.clocked = .ok (time, nanos) ∧
        ShownAt time nanos (parts.hour?.getD 0) (parts.minute.getD 0) (parts.second.getD 0)
          (parts.nanos.getD 0) :=
      clockTime_of_hour (by omega) rfl rfl rfl (by omega) numeric.second numeric.nanos beside
    obtain ⟨shownTime, shownNanos, read, shown⟩ := found
    rw [read]
    constructor
    · intro same
      cases same
      exact ⟨beside, shown⟩
    · rintro ⟨-, again⟩
      obtain ⟨rfl, rfl⟩ := shown.unique again
      rfl
  · have alone := beside
    rw [Classical.not_imp] at alone
    obtain ⟨noSecond, fraction⟩ := alone
    have missing : clockTime parts.clocked = .error .notEnough :=
      clockTime_lone noSecond fraction
    rw [missing]
    constructor
    · nofun
    · rintro ⟨known, -⟩
      exact absurd known beside

theorem fill_clocked (numeric : parts.Numeric) :
    fill (setMinute 0) parts.fillHour = parts.clocked := by
  have half := numeric.halfDay
  have within := numeric.halfDayHour
  rw [fill_minute, clocked]
  rcases parts.hour?.eq_none_or_eq_some with noHour | ⟨hour, hasHour⟩
  · rw [noHour] at half within ⊢
    rw [fillHour_missing half within]
    rfl
  · rw [hasHour] at half within ⊢
    rw [fillHour_known half within]
    simp only [Option.map_some] at half within
    rw [Option.getD_some, ← half, ← within]

theorem clocked_of_enough (numeric : parts.Numeric)
    (enough : clockTime parts ≠ .error .notEnough) : parts.clocked = parts := by
  have half := numeric.halfDay
  have within := numeric.halfDayHour
  rcases parts.hour?.eq_none_or_eq_some with noHour | ⟨hour, hasHour⟩
  · rw [noHour, Option.map_none] at half
    rw [clockTime, half] at enough
    exact absurd rfl enough
  rcases parts.minute.eq_none_or_eq_some with noMinute | ⟨minute, hasMinute⟩
  · rw [clockTime, noMinute] at enough
    split at enough
    next none => cases none
    next => exact absurd rfl enough
  · rw [hasHour, Option.map_some] at half within
    rw [clocked, hasHour, hasMinute, Option.getD_some, Option.getD_some, ← half, ← within,
      ← hasMinute]

theorem filledTime_eq (numeric : parts.Numeric) : filledTime parts = clockTime parts.clocked := by
  unfold filledTime
  by_cases enough : clockTime parts = .error .notEnough
  · rw [orFill_of_less enough, fill_clocked numeric]
  · rw [orFill_of_enough enough, clocked_of_enough numeric enough]

theorem filledTime_eq_ok (numeric : parts.Numeric) {time nanos : Nat} :
    filledTime parts = .ok (time, nanos) ↔ parts.OnClock time nanos := by
  rw [filledTime_eq numeric, clockTime_clocked numeric]

theorem filledOffset_eq_ok {offset : Int} :
    filledOffset parts = .ok offset ↔
      offset = parts.offset.getD 0 ∧ -86400 < offset ∧ offset < 86400 := by
  unfold filledOffset
  cases parts.offset with
  | none =>
      simp only [Except.ok.injEq, Option.getD_none]
      omega
  | some value =>
      simp only [Option.getD_some]
      split
      next within =>
        rw [Except.ok.injEq]
        omega
      next =>
        constructor
        · nofun
        · omega

end Parts

end Date

end StoreSchema
