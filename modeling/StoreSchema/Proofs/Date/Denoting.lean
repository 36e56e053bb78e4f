import StoreSchema.Proofs.Date.Filling

/-! # Moments that parts denote

The parts that a text gives denote the moment that shows them, and the start of 1970 where they say
nothing; month and day are no gaps beside a day of the year. That moment is found, with two
exceptions: a fraction needs a second, and a day of the year needs a year, as without one January
the first is filled in beside it.
-/

namespace StoreSchema

namespace Moment

variable {m : Moment} {day offset : Int} {time nanos : Nat}

/-- The day on which a moment is told. -/
def localDay (m : Moment) : Int :=
  (m.seconds + m.offset) / secondsPerDay

/-- The second of the day at which a moment is told. -/
def localTime (m : Moment) : Nat :=
  ((m.seconds + m.offset) % secondsPerDay).toNat

theorem localDay_of_time (within : time < 86400) :
    localDay ⟨day * secondsPerDay + time - offset, nanos, offset⟩ = day := by
  simp only [localDay, secondsPerDay]
  omega

theorem localTime_of_time (within : time < 86400) :
    localTime ⟨day * secondsPerDay + time - offset, nanos, offset⟩ = time := by
  simp only [localTime, secondsPerDay]
  omega

theorem eq_ofLocal (m : Moment) :
    m = ⟨m.localDay * secondsPerDay + m.localTime - m.offset, m.nanos, m.offset⟩ := by
  obtain ⟨seconds, nanos, offset⟩ := m
  simp only [Moment.mk.injEq, localDay, localTime, secondsPerDay, and_true]
  omega

theorem ofLocal?_eq_some_iff :
    ofLocal? day time nanos offset = some m ↔
      Calendar.hasDay (m.seconds / secondsPerDay) ∧
        m = ⟨day * secondsPerDay + time - offset, nanos, offset⟩ := by
  simp only [ofLocal?, Option.ite_none_right_eq_some, Option.some.injEq]
  constructor
  · rintro ⟨known, rfl⟩
    exact ⟨known, rfl⟩
  · rintro ⟨known, rfl⟩
    exact ⟨known, rfl⟩

/-- A moment exists: the year in which it is told and its day at offset zero are on the calendar,
    its offset is less than a day, and a leap second ends the minute that is told. -/
structure OnCalendar (m : Moment) : Prop where
  year : Calendar.hasYear m.toLocal.date.year
  day : Calendar.hasDay (m.seconds / secondsPerDay)
  offset : -86400 < m.offset ∧ m.offset < 86400
  nanos : m.nanos < 2000000000
  leap : 1000000000 ≤ m.nanos → m.localTime % 60 = 59

end Moment

namespace Date

/-- The components that the day of the year shows as well. -/
def Component.withinYear : Component → Bool
  | .month | .day => true
  | _ => false

namespace Parts

variable {parts : Parts}

/-! ## What parts denote -/

/-- A component as parts know it. -/
def known (parts : Parts) : Component → Option Int
  | .year => parts.year
  | .month => parts.month
  | .day => parts.day
  | .hour => parts.hour?
  | .minute => parts.minute
  | .second => parts.second
  | .nanos => parts.nanos
  | .offset => parts.offset

/-- Whether parts determine a component. The day of the year determines month and day. -/
def determines (parts : Parts) (component : Component) : Bool :=
  (parts.known component).isSome || component.withinYear && parts.ordinal.isSome

/-- Parts denote the moment that exists and shows them, and midnight of 1970-01-01 at offset zero
    where they determine nothing. -/
structure Denotes (parts : Parts) (m : Moment) : Prop where
  onCalendar : m.OnCalendar
  known : ∀ component, Shows (parts.known component) (component.shown m)
  ordinal : Shows parts.ordinal m.toLocal.date.ordinal
  gaps : ∀ component, parts.determines component = false →
    component.shown m = component.initial

/-- A fraction has a second, and without a year every gap is as in midnight of 1970-01-01 at offset
    zero, even month and day beside a day of the year. -/
structure Fills (parts : Parts) (m : Moment) : Prop where
  fraction : parts.nanos.isSome → parts.second.isSome
  yearless : parts.year = none → ∀ component, parts.known component = none →
    component.shown m = component.initial

/-- A fraction has a second, and a day of the year has a year. -/
structure Supported (parts : Parts) : Prop where
  fraction : parts.nanos.isSome → parts.second.isSome
  ordinal : parts.ordinal.isSome → parts.year.isSome

/-! ## What is found -/

theorem toMoment_eq_ok (numeric : parts.Numeric) {m : Moment} :
    toMoment parts = .ok m ↔
      Calendar.hasDay (m.seconds / Moment.secondsPerDay) ∧ parts.dated.OnDay m.localDay ∧
        parts.OnClock m.localTime m.nanos ∧ m.offset = parts.offset.getD 0 ∧
          -86400 < m.offset ∧ m.offset < 86400 := by
  rw [← filledDay_eq_ok numeric, ← filledTime_eq_ok numeric, ← filledOffset_eq_ok]
  constructor
  · intro ok
    obtain ⟨day, dayOk, ok⟩ := Outcome.bind_eq_ok.mp ok
    obtain ⟨⟨time, nanos⟩, timeOk, ok⟩ := Outcome.bind_eq_ok.mp ok
    obtain ⟨offset, offsetOk, ok⟩ := Outcome.bind_eq_ok.mp ok
    split at ok
    next found read =>
      cases ok
      obtain ⟨known, rfl⟩ := Moment.ofLocal?_eq_some_iff.mp read
      have within := ((filledTime_eq_ok numeric).mp timeOk).2.within
      rw [Moment.localDay_of_time within, Moment.localTime_of_time within]
      exact ⟨known, dayOk, timeOk, offsetOk⟩
    next => cases ok
  · rintro ⟨known, dayOk, timeOk, offsetOk⟩
    rw [toMoment, dayOk, Outcome.ok_bind, timeOk, Outcome.ok_bind]
    simp only [offsetOk, Outcome.ok_bind]
    rw [Moment.ofLocal?_eq_some_iff.mpr ⟨known, m.eq_ofLocal⟩]

/-- The moment that parts determine shows what they know. A gap is as in midnight of 1970-01-01 at
    offset zero, but for month and day where a day of the year has its year. -/
theorem toMoment_shows (numeric : parts.Numeric) {m : Moment} :
    toMoment parts = .ok m ↔
      m.OnCalendar ∧ Shows parts.ordinal m.toLocal.date.ordinal ∧
        (parts.second = none → parts.nanos = none) ∧
        ∀ component, Shows (parts.known component) (component.shown m) ∧
          (parts.known component = none →
            (component.withinYear → parts.year = none ∨ parts.ordinal = none) →
              component.shown m = component.initial) := by
  rw [toMoment_eq_ok numeric, dated_onDay]
  constructor
  · rintro ⟨known, ⟨onDay, noYear, noDate⟩, clock, offset⟩
    obtain ⟨beside, -, hour, minute, second, fraction, bound, leap⟩ := clock
    obtain ⟨offset, within⟩ := offset
    rw [shows_getD] at hour minute second fraction offset
    refine ⟨⟨onDay.known, known, within, bound, leap⟩, onDay.ordinal, beside, ?_⟩
    intro component
    cases component with
    | year => exact ⟨onDay.year, fun gap _ => noYear gap⟩
    | month => exact ⟨onDay.month, fun gap alone => (noDate (alone rfl)).1 gap⟩
    | day => exact ⟨onDay.day, fun gap alone => (noDate (alone rfl)).2 gap⟩
    | hour => exact ⟨hour.1, fun gap _ => hour.2 gap⟩
    | minute => exact ⟨minute.1, fun gap _ => minute.2 gap⟩
    | second => exact ⟨second.1, fun gap _ => second.2 gap⟩
    | nanos => exact ⟨fraction.1, fun gap _ => fraction.2 gap⟩
    | offset => exact ⟨offset.1, fun gap _ => offset.2 gap⟩
  · rintro ⟨⟨year, known, within, bound, leap⟩, ordinal, beside, all⟩
    have filled : ∀ component, component.withinYear = false →
        component.shown m = (parts.known component).getD component.initial := by
      intro component apart
      obtain ⟨shown, gap⟩ := all component
      exact shows_getD.mpr ⟨shown, fun none => gap none (by simp [apart])⟩
    refine ⟨known, ⟨⟨year, ?_, ?_, ?_, ordinal⟩, ?_, ?_⟩, ⟨beside, ?_⟩, ?_, within⟩
    · exact (all .year).1
    · exact (all .month).1
    · exact (all .day).1
    · exact fun gap => (all .year).2 gap nofun
    · exact fun alone => ⟨fun gap => (all .month).2 gap fun _ => alone,
        fun gap => (all .day).2 gap fun _ => alone⟩
    · have time : m.localTime < 86400 := by
        unfold Moment.localTime Moment.secondsPerDay
        omega
      exact ⟨time, filled .hour rfl, filled .minute rfl, filled .second rfl, filled .nanos rfl,
        bound, leap⟩
    · exact filled .offset rfl

theorem determines_eq_false {component : Component} :
    parts.determines component = false ↔
      parts.known component = none ∧ (component.withinYear → parts.ordinal = none) := by
  rw [determines, Bool.or_eq_false_iff, Option.isSome_eq_false_iff, Option.isNone_iff_eq_none,
    Bool.and_eq_false_imp, Option.isSome_eq_false_iff, Option.isNone_iff_eq_none]

/-- The moment that parts determine is the one that they denote, if it fills their gaps. -/
theorem toMoment_eq_ok_iff (numeric : parts.Numeric) {m : Moment} :
    toMoment parts = .ok m ↔ parts.Denotes m ∧ parts.Fills m := by
  rw [toMoment_shows numeric]
  constructor
  · rintro ⟨onCalendar, ordinal, beside, all⟩
    refine ⟨⟨onCalendar, fun component => (all component).1, ordinal, ?_⟩, ?_, ?_⟩
    · intro component gap
      obtain ⟨unknown, alone⟩ := determines_eq_false.mp gap
      exact (all component).2 unknown fun within => .inr (alone within)
    · intro fraction
      rw [Option.isSome_iff_ne_none] at fraction ⊢
      exact fun noSecond => fraction (beside noSecond)
    · intro noYear component gap
      exact (all component).2 gap fun _ => .inl noYear
  · rintro ⟨⟨onCalendar, known, ordinal, gaps⟩, fraction, yearless⟩
    refine ⟨onCalendar, ordinal, ?_, ?_⟩
    · intro noSecond
      rw [noSecond] at fraction
      exact Option.not_isSome_iff_eq_none.mp fun some => nomatch fraction some
    · intro component
      refine ⟨known component, ?_⟩
      intro gap alone
      by_cases within : component.withinYear
      · rcases alone within with noYear | noOrdinal
        · exact yearless noYear component gap
        · exact gaps component (determines_eq_false.mpr ⟨gap, fun _ => noOrdinal⟩)
      · exact gaps component (determines_eq_false.mpr ⟨gap, fun yes => absurd yes within⟩)

theorem Supported.fills (supported : parts.Supported) {m : Moment} (denotes : parts.Denotes m) :
    parts.Fills m where
  fraction := supported.fraction
  yearless := by
    intro noYear component gap
    have noOrdinal : parts.ordinal = none := by
      have ordinal := supported.ordinal
      rw [noYear] at ordinal
      exact Option.not_isSome_iff_eq_none.mp fun some => nomatch ordinal some
    exact denotes.gaps component (determines_eq_false.mpr ⟨gap, fun _ => noOrdinal⟩)

end Parts

/-! ## Layouts of numbers -/

/-- A layout of numbers finds the moment that its text denotes, if it fills the gaps as the parts
    are filled; it always does where a fraction has a second and a day of the year has a year. -/
theorem numeric_layouts_find_moments {layout : Layout} {text : List Char} {parts : Parts}
    (numbers : layout.items.all Item.numeric)
    (matched : scanItems {} text layout.items = .ok parts) :
    (∀ m, layout.scan text = .ok m ↔ parts.Denotes m ∧ parts.Fills m) ∧
      (parts.Supported → ∀ m, layout.scan text = .ok m ↔ parts.Denotes m) := by
  have numeric := scanItems_numeric numbers Parts.Numeric.empty matched
  have reads : ∀ m, layout.scan text = .ok m ↔ parts.Denotes m ∧ parts.Fills m := by
    intro m
    rw [Layout.scan, matched]
    exact Parts.toMoment_eq_ok_iff numeric
  refine ⟨reads, ?_⟩
  intro supported m
  rw [reads]
  exact ⟨And.left, fun denotes => ⟨denotes, supported.fills denotes⟩⟩

namespace Sample

/-- The items of `uuuu-DDD'T'HH:mm:ss.999999999Z`. -/
def ordinals : Layout :=
  ⟨[.number .year true, .literal ['-'], .number .ordinal true, .literal ['T'],
    .number .hour true, .literal [':'], .number .minute true, .literal [':'],
    .number .second true, .fraction, .offset]⟩

/-- What the text `2024-060T23:59:60.25+02:00` gives. -/
def ordinalParts : Parts where
  year := some 2024
  ordinal := some 60
  halfDay := some 1
  halfDayHour := some 11
  minute := some 59
  second := some 60
  nanos := some 250000000
  offset := some 7200

/-- A leap second on the last day of February, told two hours east. -/
def leapDay : Moment := ⟨1709243999, 1250000000, 7200⟩

theorem ordinalParts_denote : ordinalParts.Denotes leapDay where
  onCalendar := by constructor <;> decide +kernel
  known := by
    intro component value known
    cases component <;> cases known <;> decide +kernel
  ordinal := by
    intro value known
    cases known
    decide +kernel
  gaps := by
    intro component gap
    cases component <;> cases gap

end Sample

theorem sample_numeric_layouts_find_moments :
    Sample.ordinals.scan "2024-060T23:59:60.25+02:00".toList = .ok Sample.leapDay := by
  have matched : scanItems {} "2024-060T23:59:60.25+02:00".toList Sample.ordinals.items =
      .ok Sample.ordinalParts := by decide +kernel
  obtain ⟨-, supported⟩ := numeric_layouts_find_moments rfl matched
  refine (supported ?_ Sample.leapDay).mpr Sample.ordinalParts_denote
  constructor <;> intro _ <;> rfl

/-- A layout of numbers refuses a text although its parts denote a moment. -/
structure Layout.Refuses (layout : Layout) (text : String) (parts : Parts) (m : Moment)
    (reason : Misread) : Prop where
  numbers : layout.items.all Item.numeric
  matched : scanItems {} text.toList layout.items = .ok parts
  denotes : parts.Denotes m
  refused : layout.scan text.toList = .error reason

/-- The parts of `045` denote a day in February of 1970, and those of `07:30.250` a quarter of a
    second past half past seven. -/
theorem sample_gaps_stay :
    Layout.Refuses ⟨[.number .ordinal true]⟩ "045" { ordinal := some 45 }
      ⟨3801600, 0, 0⟩ .impossible ∧
    Layout.Refuses ⟨[.number .hour true, .literal [':'], .number .minute true, .pointed .millis]⟩
      "07:30.250"
      { halfDay := some 0, halfDayHour := some 7, minute := some 30, nanos := some 250000000 }
      ⟨27000, 250000000, 0⟩ .notEnough := by
  refine ⟨⟨rfl, by decide +kernel, ⟨?_, ?_, ?_, ?_⟩, by decide +kernel⟩,
    rfl, by decide +kernel, ⟨?_, ?_, ?_, ?_⟩, by decide +kernel⟩
  · constructor <;> decide +kernel
  · intro component value known
    cases component <;> cases known
  · intro value known
    cases known
    decide +kernel
  · intro component gap
    cases component <;> cases gap <;> decide +kernel
  · constructor <;> decide +kernel
  · intro component value known
    cases component <;> cases known <;> decide +kernel
  · nofun
  · intro component gap
    cases component <;> cases gap <;> decide +kernel

end Date

end StoreSchema
