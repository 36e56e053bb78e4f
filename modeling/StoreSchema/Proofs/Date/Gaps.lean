import StoreSchema.Proofs.Date.Parts
import StoreSchema.Proofs.Date.Told

/-! # Gaps of what was told

A row that writes smaller parts of a date or a time only beside the greater ones determines a
moment: what it writes is as it was, and the rest is midnight of 1970-01-01 at offset zero.
-/

namespace StoreSchema.Date

/-! ## Filling gaps -/

namespace Parts

variable {parts : Parts}

theorem calendarDay_of_ordinal {year day : Int} {ordinal : Nat} (hasYear : parts.year = some year)
    (noCentury : parts.yearOfCentury = none) (noMonth : parts.month = none)
    (noDay : parts.day = none) (noWeekday : parts.weekday = none)
    (hasOrdinal : parts.ordinal = some (ordinal : Int))
    (same : (Calendar.date day).ordinal = ordinal)
    (found : Calendar.ofOrdinal? year ordinal = some day) :
    calendarDay parts = .ok day := by
  simp [calendarDay, fullYear, hasYear, noCentury, noMonth, noDay, noWeekday, hasOrdinal, found,
    allowsMonth, allowsDay, allows, same]

/-- Parts that say nothing about the day but year, month and day of the month. -/
structure Dated (parts : Parts) : Prop where
  yearOfCentury : parts.yearOfCentury = none
  ordinal : parts.ordinal = none
  weekday : parts.weekday = none

theorem calendarDay_of_date (dated : parts.Dated) {year month dayOfMonth day : Int}
    (hasYear : parts.year = some year) (hasMonth : parts.month = some month)
    (hasDay : parts.day = some dayOfMonth)
    (found : Calendar.ofDate? year month.toNat dayOfMonth.toNat = some day) :
    calendarDay parts = .ok day := by
  simp [calendarDay, fullYear, hasYear, dated.yearOfCentury, hasMonth, hasDay, dated.weekday,
    dated.ordinal, found, allowsDay, allows]

theorem calendarDay_missing (dated : parts.Dated)
    (missing : parts.year = none ∨ parts.month = none ∨ parts.day = none) :
    calendarDay parts = .error .notEnough := by
  rw [calendarDay, fullYear, dated.yearOfCentury, dated.ordinal]
  rcases missing with none | none | none
  · simp [none]
  · cases parts.year <;> simp [none]
  · cases parts.year <;> cases parts.month <;> simp [none]

theorem filledDay_of_date (dated : parts.Dated) {day : Int}
    (found : Calendar.ofDate? (parts.year.getD 1970) (parts.month.getD 1).toNat
      (parts.day.getD 1).toNat = some day) : filledDay parts = .ok day := by
  generalize filled : { parts with
    month := some (parts.month.getD 1), day := some (parts.day.getD 1) } = withDay
  have stillDated : withDay.Dated := by
    subst filled
    exact ⟨dated.yearOfCentury, dated.ordinal, dated.weekday⟩
  have second : orFill calendarDay (fill (setYear 1970)) calendarDay withDay = .ok day := by
    cases known : parts.year with
    | none =>
        have missing : withDay.year = none := filled ▸ known
        rw [known] at found
        rw [orFill, calendarDay_missing stillDated (.inl missing)]
        simp only [fill_year, missing]
        subst filled
        refine calendarDay_of_date ?_ rfl rfl rfl found
        exact ⟨dated.yearOfCentury, dated.ordinal, dated.weekday⟩
    | some year =>
        rw [known] at found
        have same : calendarDay withDay = .ok day := by
          subst filled
          exact calendarDay_of_date stillDated known rfl rfl found
        rw [orFill, same]
  unfold filledDay
  by_cases missing : parts.year = none ∨ parts.month = none ∨ parts.day = none
  · rw [orFill, calendarDay_missing dated missing]
    simp only [fill_month, fill_day, filled]
    exact second
  · simp only [not_or, ← ne_eq, Option.ne_none_iff_exists'] at missing
    obtain ⟨⟨year, hasYear⟩, ⟨month, hasMonth⟩, ⟨dayOfMonth, hasDay⟩⟩ := missing
    rw [hasYear, hasMonth, hasDay] at found
    rw [orFill, calendarDay_of_date dated hasYear hasMonth hasDay found]

/-! ## The time -/

/-- The second of a day and the nanoseconds at which a clock shows a time. -/
structure ShownAt (time nanos : Nat) (hour minute second fraction : Int) : Prop where
  within : time < 86400
  hour : ((time / 3600 : Nat) : Int) = hour
  minute : ((time / 60 % 60 : Nat) : Int) = minute
  second : ((time % 60 + nanos / 1000000000 : Nat) : Int) = second
  fraction : ((nanos % 1000000000 : Nat) : Int) = fraction
  bound : nanos < 2000000000
  leap : 1000000000 ≤ nanos → time % 60 = 59

theorem clockTime_of_hour {hour minute : Int} (range : 0 ≤ hour ∧ hour < 24)
    (hasHalf : parts.halfDay = some (hour / 12)) (hasHour : parts.halfDayHour = some (hour % 12))
    (hasMinute : parts.minute = some minute) (minuteRange : 0 ≤ minute ∧ minute < 60)
    (second : Within 0 60 parts.second) (nanos : Within 0 999999999 parts.nanos)
    (beside : parts.second = none → parts.nanos = none) :
    ∃ time fraction, clockTime parts = .ok (time, fraction) ∧
      ShownAt time fraction hour minute (parts.second.getD 0) (parts.nanos.getD 0) := by
  have fraction : 0 ≤ parts.nanos.getD 0 ∧ parts.nanos.getD 0 ≤ 999999999 := by
    cases known : parts.nanos with
    | none => simp
    | some value => exact nanos value known
  have enough : (parts.second.isNone && parts.nanos.isSome) = false := by
    cases known : parts.second with
    | none => simp [beside known]
    | some value => rfl
  rw [clockTime, hasHalf, hasHour, hasMinute]
  simp only [enough, Bool.false_eq_true, if_false]
  split
  next leap =>
    refine ⟨_, _, rfl, ?_⟩
    rw [leap, Option.getD_some]
    constructor <;> omega
  next noLeap =>
    have seconds : 0 ≤ parts.second.getD 0 ∧ parts.second.getD 0 ≤ 59 := by
      cases known : parts.second with
      | none => simp
      | some value =>
          have bounds := second value known
          have apart : value ≠ 60 := fun same => noLeap (same ▸ known)
          simp only [Option.getD_some]
          omega
    refine ⟨_, _, rfl, ?_⟩
    constructor <;> omega

/-- What parts say about the time of the clock: no smaller part is there without the greater ones. -/
structure Timed (parts : Parts) (hour : Option Int) : Prop where
  halfDay : parts.halfDay = hour.map (· / 12)
  halfDayHour : parts.halfDayHour = hour.map (· % 12)
  hours : Within 0 23 hour
  minute : Within 0 59 parts.minute
  second : Within 0 60 parts.second
  nanos : Within 0 999999999 parts.nanos
  besideHour : hour = none → parts.minute = none
  besideMinute : parts.minute = none → parts.second = none
  besideSecond : parts.second = none → parts.nanos = none

theorem fillHour_known {half hour : Int} (hasHalf : parts.halfDay = some half)
    (hasHour : parts.halfDayHour = some hour) : parts.fillHour = parts := by
  obtain ⟨_, _, _, _, _, _, _, _, _, _, _, _⟩ := parts
  cases hasHalf
  cases hasHour
  by_cases morning : half = 0 <;> by_cases start : hour = 0 <;>
    simp [fillHour, fill, agree, morning, start, bind, Except.bind, pure, Except.pure]

theorem fillHour_missing (noHalf : parts.halfDay = none) (noHour : parts.halfDayHour = none) :
    parts.fillHour = { parts with halfDay := some 0, halfDayHour := some 0 } := by
  obtain ⟨_, _, _, _, _, _, _, _, _, _, _, _⟩ := parts
  cases noHalf
  cases noHour
  rfl

theorem filledTime_of_hour {hour : Option Int} (timed : parts.Timed hour) :
    ∃ time fraction, filledTime parts = .ok (time, fraction) ∧
      ShownAt time fraction (hour.getD 0) (parts.minute.getD 0) (parts.second.getD 0)
        (parts.nanos.getD 0) := by
  cases hasMinute : parts.minute with
  | some minute =>
      cases known : hour with
      | none => simp [timed.besideHour known] at hasMinute
      | some value =>
          subst known
          have range := timed.hours value rfl
          have minutes := timed.minute minute hasMinute
          obtain ⟨time, fraction, read, shown⟩ := clockTime_of_hour (by omega) timed.halfDay
            timed.halfDayHour hasMinute (by omega) timed.second timed.nanos timed.besideSecond
          exact ⟨time, fraction, by rw [filledTime, orFill, read], shown⟩
  | none =>
      have missing : clockTime parts = .error .notEnough := by
        rw [clockTime, hasMinute]
        cases parts.halfDay <;> cases parts.halfDayHour <;> rfl
      have filled : ∃ value : Int, (0 ≤ value ∧ value < 24) ∧ value = hour.getD 0 ∧
          parts.fillHour = { parts with
            halfDay := some (value / 12), halfDayHour := some (value % 12) } := by
        cases known : hour with
        | none =>
            subst known
            exact ⟨0, by omega, rfl, fillHour_missing timed.halfDay timed.halfDayHour⟩
        | some value =>
            subst known
            have range := timed.hours value rfl
            refine ⟨value, by omega, rfl, ?_⟩
            rw [fillHour_known timed.halfDay timed.halfDayHour]
            have half := timed.halfDay
            have within := timed.halfDayHour
            simp only [Option.map_some] at half within
            rw [← half, ← within]
      obtain ⟨value, range, same, hourFilled⟩ := filled
      rw [filledTime, orFill, missing]
      simp only [fill_minute, hourFilled, hasMinute, ← same]
      exact clockTime_of_hour range rfl rfl rfl (by decide) timed.second timed.nanos
        timed.besideSecond

end Parts

/-! ## Rows without gaps inside -/

/-- Whether items write parts of a date and of a time only beside the greater ones, and the day of
    the year only in place of month and day. -/
def orderly (items : List Item) : Bool :=
  (writes items .day → writes items .month) && (writes items .month → writes items .year) &&
    (writes items .ordinal →
      writes items .year && !writes items .month && !writes items .day) &&
    (writes items .minute → writes items .hour) &&
    (writes items .second → writes items .minute) &&
    (items.contains .fraction → writes items .second)

/-- What it means for items to be orderly. -/
structure Ordered (items : List Item) : Prop where
  day : writes items .day → writes items .month
  month : writes items .month → writes items .year
  ordinal : writes items .ordinal →
    writes items .year ∧ writes items .month = false ∧ writes items .day = false
  minute : writes items .minute → writes items .hour
  second : writes items .second → writes items .minute
  fraction : items.contains .fraction → writes items .second

theorem ordered_of_orderly {items : List Item} (yes : orderly items) : Ordered items := by
  simp only [orderly, Bool.and_eq_true, decide_eq_true_eq, Bool.not_eq_true', and_assoc] at yes
  obtain ⟨day, month, ordinal, minute, second, fraction⟩ := yes
  exact ⟨day, month, ordinal, minute, second, fraction⟩

/-- What a calendar, a clock and an offset show. -/
inductive Component where
  | year
  | month
  | day
  | hour
  | minute
  | second
  | nanos
  | offset
  deriving Repr, DecidableEq

/-- A component of a moment. -/
def Component.shown (component : Component) (m : Moment) : Int :=
  match component with
  | .year => m.toLocal.date.year
  | .month => m.toLocal.date.month
  | .day => m.toLocal.date.day
  | .hour => m.toLocal.hour
  | .minute => m.toLocal.minute
  | .second => m.toLocal.second
  | .nanos => m.toLocal.nanos
  | .offset => m.offset

/-- Whether items show a component. The day of the year shows month and day. -/
def shows (items : List Item) : Component → Bool
  | .year => writes items .year
  | .month => writes items .month || writes items .ordinal
  | .day => writes items .day || writes items .ordinal
  | .hour => writes items .hour
  | .minute => writes items .minute
  | .second => writes items .second
  | .nanos => items.contains .fraction
  | .offset => items.contains .offset

/-- Midnight of 1970-01-01 at offset zero. -/
def Component.initial : Component → Int
  | .year => 1970
  | .month | .day => 1
  | .hour | .minute | .second | .nanos | .offset => 0

/-- The components that items show are those of a moment, and the others the initial ones. -/
def Keeps (items : List Item) (m back : Moment) : Prop :=
  ∀ component : Component, component.shown back =
    if shows items component then component.shown m else component.initial

section Rows

variable {items : List Item} {time : Moment.Local} {offset : Int}

theorem getD_told (part : NumberPart) (value : Int) :
    (part.told time items).getD value =
      if writes items part then ((part.value time).2 : Int) else value := by
  rw [NumberPart.told]
  split <;> rfl

theorem told_dated (noOrdinal : writes items .ordinal = false) :
    (Parts.told time offset items).Dated where
  yearOfCentury := rfl
  ordinal := by simp [Parts.told, NumberPart.told, noOrdinal]
  weekday := rfl

theorem filledDay_of_ordinal (offset : Int) {day : Int} (date : time.date = Calendar.date day)
    (year : 0 ≤ time.date.year ∧ time.date.year ≤ 9999) (ordered : Ordered items)
    (ordinal : writes items .ordinal) : (Parts.told time offset items).filledDay = .ok day := by
  have ofOrdinal := (Calendar.shown day).ofOrdinal
  rw [← date] at ofOrdinal
  obtain ⟨hasYear, noMonth, noDay⟩ := ordered.ordinal ordinal
  have read : (Parts.told time offset items).calendarDay = .ok day := by
    refine Parts.calendarDay_of_ordinal ?_ rfl ?_ ?_ rfl ?_ ?_
      (ofOrdinal (Calendar.hasYear_of_range year))
    · simp only [Parts.told, NumberPart.told, hasYear, if_true, NumberPart.value,
        Int.toNat_of_nonneg year.1]
    · simp [Parts.told, NumberPart.told, noMonth]
    · simp [Parts.told, NumberPart.told, noDay]
    · simp [Parts.told, NumberPart.told, ordinal, NumberPart.value]
    · rw [date]
  rw [Parts.filledDay, Parts.orFill, read]

theorem exists_toldDay {day : Int} (date : time.date = Calendar.date day)
    (year : 0 ≤ time.date.year ∧ time.date.year ≤ 9999) (ordered : Ordered items) :
    ∃ found, Calendar.ofDate? (if writes items .year then time.date.year else 1970)
      (if writes items .month then time.date.month else 1)
      (if writes items .day then time.date.day else 1) = some found := by
  have known := Calendar.hasYear_of_range year
  obtain ⟨month, -, -, ofDate, -⟩ := Calendar.shown day
  rw [← date] at month ofDate
  cases hasDay : writes items .day with
  | true =>
      rw [ordered.day hasDay, ordered.month (ordered.day hasDay)]
      exact ⟨day, ofDate known⟩
  | false =>
      refine Calendar.exists_firstOfMonth ?_ ?_ ?_
      · cases writes items .year with
        | true => exact known
        | false => rfl
      · split
        next => exact month.1
        next => exact Nat.le_refl 1
      · split
        next => exact month.2
        next => decide

theorem filledDay_told (offset : Int) {day : Int} (date : time.date = Calendar.date day)
    (year : 0 ≤ time.date.year ∧ time.date.year ≤ 9999) (ordered : Ordered items) :
    ∃ found, (Parts.told time offset items).filledDay = .ok found ∧
      (Calendar.date found).year = (if shows items .year then time.date.year else 1970) ∧
      (Calendar.date found).month = (if shows items .month then time.date.month else 1) ∧
      (Calendar.date found).day = (if shows items .day then time.date.day else 1) := by
  cases ordinal : writes items .ordinal with
  | true =>
      refine ⟨day, filledDay_of_ordinal offset date year ordered ordinal, ?_⟩
      simp [shows, ordinal, (ordered.ordinal ordinal).1, date]
  | false =>
      have showsYear : shows items .year = writes items .year := rfl
      have showsMonth : shows items .month = writes items .month := by simp [shows, ordinal]
      have showsDay : shows items .day = writes items .day := by simp [shows, ordinal]
      obtain ⟨found, read⟩ := exists_toldDay date year ordered
      rw [showsYear, showsMonth, showsDay]
      refine ⟨found, Parts.filledDay_of_date (told_dated ordinal) ?_, Calendar.ofDate?_eq_some read⟩
      have monthValue : (if writes items .month then (time.date.month : Int) else 1).toNat =
          if writes items .month then time.date.month else 1 := by
        split <;> rfl
      have dayValue : (if writes items .day then (time.date.day : Int) else 1).toNat =
          if writes items .day then time.date.day else 1 := by
        split <;> rfl
      simp only [Parts.told, getD_told, NumberPart.value, Int.toNat_of_nonneg year.1]
      rw [monthValue, dayValue, read]

theorem Parts.Within.told {part : NumberPart} {low high : Int}
    (range : low ≤ (part.value time).2 ∧ ((part.value time).2 : Int) ≤ high) :
    Parts.Within low high (part.told time items) := by
  rw [NumberPart.told]
  split
  next => exact .some range
  next => exact .none low high

theorem told_timed (valid : time.Valid) (ordered : Ordered items) :
    (Parts.told time offset items).Timed (NumberPart.hour.told time items) := by
  obtain ⟨-, -, -, -, hour, minute, second, nanos⟩ := valid
  have missing : ∀ {greater smaller : NumberPart},
      (writes items smaller → writes items greater) →
        greater.told time items = none → smaller.told time items = none := by
    intro greater smaller order none
    rw [NumberPart.told, ite_eq_right_iff] at none ⊢
    intro written
    cases none (order written)
  constructor
  · rfl
  · rfl
  · refine .told ?_
    simp only [NumberPart.value]
    omega
  · refine .told ?_
    simp only [NumberPart.value]
    omega
  · refine .told ?_
    simp only [NumberPart.value]
    omega
  · simp only [Parts.told]
    split
    next => exact .some (by omega)
    next => exact .none 0 999999999
  · exact missing ordered.minute
  · exact missing ordered.second
  · intro none
    have unwritten : items.contains .fraction = false := by
      refine Bool.eq_false_iff.mpr fun written => ?_
      simp [NumberPart.told, Parts.told, ordered.fraction written] at none
    simp only [Parts.told, unwritten, Bool.false_and, Bool.false_eq_true, if_false]

theorem filledTime_told (offset : Int) (valid : time.Valid) (ordered : Ordered items) :
    ∃ second nanos, (Parts.told time offset items).filledTime = .ok (second, nanos) ∧
      Parts.ShownAt second nanos (if shows items .hour then time.hour else 0)
        (if shows items .minute then time.minute else 0)
        (if shows items .second then time.second else 0)
        (if shows items .nanos then time.nanos else 0) := by
  obtain ⟨second, nanos, read, shown⟩ := Parts.filledTime_of_hour (told_timed valid ordered)
  refine ⟨second, nanos, read, ?_⟩
  have fraction : (Parts.told time offset items).nanos.getD 0 =
      if shows items .nanos then (time.nanos : Int) else 0 := by
    by_cases zero : time.nanos = 0
    · simp [Parts.told, zero]
    · have showsNanos : shows items .nanos = items.contains .fraction := rfl
      rw [showsNanos]
      simp only [Parts.told, ne_eq, zero, not_false_eq_true, decide_true, Bool.and_true]
      cases items.contains .fraction <;> rfl
  rw [fraction, getD_told] at shown
  simp only [Parts.told, getD_told] at shown
  exact shown

theorem filledOffset_told (items : List Item) (time : Moment.Local)
    (within : -86400 < offset ∧ offset < 86400) :
    (Parts.told time offset items).filledOffset = .ok (if shows items .offset then offset else 0) := by
  simp only [Parts.told, Parts.filledOffset, shows]
  by_cases written : items.contains .offset
  · simp only [written, if_true, within, and_self]
  · simp only [written, if_false, Bool.false_eq_true]

end Rows

/-! ## The moment that was told -/

theorem Parts.toMoment_of {parts : Parts} {day offset : Int} {second nanos : Nat}
    (dayRead : parts.filledDay = .ok day) (timeRead : parts.filledTime = .ok (second, nanos))
    (offsetRead : parts.filledOffset = .ok offset)
    (years : 0 ≤ (Calendar.date day).year ∧ (Calendar.date day).year ≤ 9999)
    (within : second < 86400) (offsets : -86400 < offset ∧ offset < 86400) :
    parts.toMoment = .ok ⟨day * Moment.secondsPerDay + second - offset, nanos, offset⟩ := by
  have least : Calendar.leastYear < (Calendar.date day).year := by
    unfold Calendar.leastYear
    omega
  have most : (Calendar.date day).year < Calendar.greatestYear := by
    unfold Calendar.greatestYear
    omega
  have onCalendar : Calendar.hasDay
      ((day * Moment.secondsPerDay + second - offset) / Moment.secondsPerDay) := by
    refine Calendar.hasDay_near least most ?_
    unfold Moment.secondsPerDay
    omega
  rw [toMoment, dayRead, Outcome.ok_bind, timeRead, Outcome.ok_bind]
  simp only [offsetRead, Outcome.ok_bind, Moment.ofLocal?, onCalendar, if_true]

theorem Parts.ShownAt.writable {second nanos : Nat} {hour minute shown fraction day offset : Int}
    (clock : ShownAt second nanos hour minute shown fraction)
    (years : 0 ≤ (Calendar.date day).year ∧ (Calendar.date day).year ≤ 9999)
    (offsets : -86400 < offset ∧ offset < 86400) (wholeMinutes : offset % 60 = 0) :
    Moment.Writable ⟨day * Moment.secondsPerDay + second - offset, nanos, offset⟩ where
  year := by
    rw [Moment.year_of_time clock.within]
    exact years
  offset := offsets
  wholeMinutes := wholeMinutes
  nanos := clock.bound
  leap := by
    intro leap
    have last := clock.leap leap
    simp only [Moment.secondsPerDay]
    omega

theorem toMoment_told {items : List Item} (ordered : Ordered items) {m : Moment}
    (writable : m.Writable) :
    ∃ back, (Parts.told m.toLocal m.offset items).toMoment = .ok back ∧ back.Writable ∧
      Keeps items m back := by
  have valid := writable.valid
  obtain ⟨localDay, time, within, -, same⟩ := Moment.exists_time m
  have date : m.toLocal.date = Calendar.date localDay := by
    rw [same, Moment.toLocal_of_time within]
  obtain ⟨day, dayRead, year, month, dayOfMonth⟩ :=
    filledDay_told m.offset date valid.year ordered
  obtain ⟨second, nanos, timeRead, clock⟩ := filledTime_told m.offset valid ordered
  have offsetRead := filledOffset_told items m.toLocal writable.offset
  generalize backOffset : (if shows items .offset then m.offset else 0) = offset at offsetRead
  have offsets : -86400 < offset ∧ offset < 86400 := by
    have bounds := writable.offset
    rw [← backOffset]
    split <;> omega
  have wholeMinutes : offset % 60 = 0 := by
    have minutes := writable.wholeMinutes
    rw [← backOffset]
    split <;> omega
  have years : 0 ≤ (Calendar.date day).year ∧ (Calendar.date day).year ≤ 9999 := by
    have bounds := valid.year
    rw [year]
    split <;> omega
  refine ⟨_, Parts.toMoment_of dayRead timeRead offsetRead years clock.within offsets,
    clock.writable years offsets wholeMinutes, ?_⟩
  intro component
  cases component with
  | offset => exact backOffset.symm
  | year =>
      rw [Component.shown, Moment.toLocal_of_time clock.within]
      exact year
  | month =>
      rw [Component.shown, Moment.toLocal_of_time clock.within]
      exact (congrArg Nat.cast month).trans (apply_ite _ _ _ _)
  | day =>
      rw [Component.shown, Moment.toLocal_of_time clock.within]
      exact (congrArg Nat.cast dayOfMonth).trans (apply_ite _ _ _ _)
  | hour =>
      rw [Component.shown, Moment.toLocal_of_time clock.within]
      exact clock.hour
  | minute =>
      rw [Component.shown, Moment.toLocal_of_time clock.within]
      exact clock.minute
  | second =>
      rw [Component.shown, Moment.toLocal_of_time clock.within]
      exact clock.second
  | nanos =>
      rw [Component.shown, Moment.toLocal_of_time clock.within]
      exact clock.fraction

/-- A layout whose items are clear and orderly reads a moment back, up to what it does not show. -/
theorem Layout.scan_print {items : List Item} (unambiguous : clear items) (ordered : Ordered items)
    {m : Moment} (writable : m.Writable) :
    ∃ back, Layout.scan ⟨items⟩ (Layout.print ⟨items⟩ m) = .ok back ∧ back.Writable ∧
      Keeps items m back := by
  obtain ⟨back, resolved, again, keeps⟩ := toMoment_told ordered writable
  have scanned := scanItems_print writable.valid writable.offset writable.wholeMinutes unambiguous []
  refine ⟨back, ?_, again, keeps⟩
  rw [Layout.scan]
  exact (congrArg (· >>= Parts.toMoment) scanned).trans resolved

end StoreSchema.Date
