import StoreSchema.Date.Parts
import StoreSchema.Proofs.Date.Moments
import StoreSchema.Proofs.Outcome

/-! # What parts determine

Parts are read within their ranges, and a part that was set stays as it is. The moment that parts
determine is told in the year that they name, or in 1970.
-/

namespace StoreSchema.Date.Parts

variable {parts after : Parts} {value : Int}

/-! ## Setting parts -/

theorem inRange_ok {low high : Int} {done : Unit} (ok : inRange low high value = .ok done) :
    low ≤ value ∧ value ≤ high := by
  unfold inRange at ok
  split at ok
  next within => exact within
  next => cases ok

theorem agree_ok {old new : Option Int} (ok : agree old value = .ok new) :
    new = some value ∧ (old = none ∨ old = some value) := by
  unfold agree at ok
  split at ok
  next =>
    cases ok
    exact ⟨rfl, .inl rfl⟩
  next known =>
    split at ok
    next same =>
      cases ok
      subst same
      exact ⟨rfl, .inr rfl⟩
    next => cases ok

/-- A part is missing or lies in a range. -/
def Within (low high : Int) (part : Option Int) : Prop :=
  ∀ value, part = some value → low ≤ value ∧ value ≤ high

theorem Within.some {low high : Int} (range : low ≤ value ∧ value ≤ high) :
    Within low high (some value) := by
  intro other same
  cases same
  exact range

theorem Within.none (low high : Int) : Within low high none := by
  intro value same
  cases same

/-- The clock shows a time of day, and two digits of a year are two digits. -/
structure Sound (parts : Parts) : Prop where
  yearOfCentury : Within 0 99 parts.yearOfCentury
  halfDay : Within 0 1 parts.halfDay
  halfDayHour : Within 0 11 parts.halfDayHour
  minute : Within 0 59 parts.minute
  second : Within 0 60 parts.second

theorem Sound.empty : Sound {} where
  yearOfCentury := .none 0 99
  halfDay := .none 0 1
  halfDayHour := .none 0 11
  minute := .none 0 59
  second := .none 0 60

/-- What a setter of a part other than the year does. -/
structure Sets (parts after : Parts) : Prop where
  sound : parts.Sound → after.Sound
  year : after.year = parts.year

/-- The year, and the parts that have to be sound. -/
def bounded (parts : Parts) : List (Option Int) :=
  [parts.year, parts.yearOfCentury, parts.halfDay, parts.halfDayHour, parts.minute, parts.second]

theorem Sets.of_bounded (same : after.bounded = parts.bounded) : Sets parts after := by
  simp only [bounded, List.cons.injEq, and_true] at same
  obtain ⟨year, yearOfCentury, halfDay, halfDayHour, minute, second⟩ := same
  refine ⟨fun sound => ?_, year⟩
  constructor
  · exact yearOfCentury ▸ sound.yearOfCentury
  · exact halfDay ▸ sound.halfDay
  · exact halfDayHour ▸ sound.halfDayHour
  · exact minute ▸ sound.minute
  · exact second ▸ sound.second

theorem guarded_ok {low high : Int} {old : Option Int} {write : Option Int → Parts}
    (ok : (do inRange low high value; let new ← agree old value; pure (write new)) = .ok after) :
    (low ≤ value ∧ value ≤ high) ∧ after = write (some value) ∧
      (old = none ∨ old = some value) := by
  obtain ⟨_, range, ok⟩ := Outcome.bind_eq_ok.mp ok
  obtain ⟨new, agreed, ok⟩ := Outcome.bind_eq_ok.mp ok
  cases Outcome.pure_eq_ok.mp ok
  obtain ⟨rfl, known⟩ := agree_ok agreed
  exact ⟨inRange_ok range, rfl, known⟩

theorem unguarded_ok {old : Option Int} {write : Option Int → Parts}
    (ok : (do let new ← agree old value; pure (write new)) = .ok after) :
    after = write (some value) := by
  obtain ⟨new, agreed, ok⟩ := Outcome.bind_eq_ok.mp ok
  cases Outcome.pure_eq_ok.mp ok
  rw [(agree_ok agreed).1]

theorem guarded_sets {low high : Int} {old : Option Int} {write : Option Int → Parts}
    (ok : (do inRange low high value; let new ← agree old value; pure (write new)) = .ok after)
    (aside : ∀ new, (write new).bounded = parts.bounded) : Sets parts after := by
  obtain ⟨-, rfl, -⟩ := guarded_ok ok
  exact .of_bounded (aside (some value))

theorem unguarded_sets {old : Option Int} {write : Option Int → Parts}
    (ok : (do let new ← agree old value; pure (write new)) = .ok after)
    (aside : ∀ new, (write new).bounded = parts.bounded) : Sets parts after := by
  cases unguarded_ok ok
  exact .of_bounded (aside (some value))

theorem setYear_ok (ok : setYear value parts = .ok after) :
    after = { parts with year := some value } ∧
      (parts.year = none ∨ parts.year = some value) :=
  (guarded_ok ok).2

theorem setYearOfCentury_sets (ok : setYearOfCentury value parts = .ok after) :
    Sets parts after := by
  obtain ⟨range, rfl, -⟩ := guarded_ok ok
  exact ⟨fun sound => { sound with yearOfCentury := .some range }, rfl⟩

theorem setHalfDay_sets (range : 0 ≤ value ∧ value ≤ 1)
    (ok : setHalfDay value parts = .ok after) : Sets parts after := by
  cases unguarded_ok ok
  exact ⟨fun sound => { sound with halfDay := .some range }, rfl⟩

theorem setHalfDayHour_sets (ok : setHalfDayHour value parts = .ok after) :
    Sets parts after := by
  obtain ⟨-, -, ok⟩ := Outcome.bind_eq_ok.mp ok
  cases unguarded_ok ok
  exact ⟨fun sound => { sound with halfDayHour := .some (by omega) }, rfl⟩

theorem setHour_sets (ok : setHour value parts = .ok after) : Sets parts after := by
  obtain ⟨_, range, ok⟩ := Outcome.bind_eq_ok.mp ok
  obtain ⟨half, agreed, ok⟩ := Outcome.bind_eq_ok.mp ok
  obtain ⟨rfl, -⟩ := agree_ok agreed
  cases unguarded_ok ok
  have bounds := inRange_ok range
  exact ⟨fun sound =>
    { sound with halfDay := .some (by omega), halfDayHour := .some (by omega) }, rfl⟩

theorem setMinute_sets (ok : setMinute value parts = .ok after) : Sets parts after := by
  obtain ⟨range, rfl, -⟩ := guarded_ok ok
  exact ⟨fun sound => { sound with minute := .some range }, rfl⟩

theorem setSecond_sets (ok : setSecond value parts = .ok after) : Sets parts after := by
  obtain ⟨range, rfl, -⟩ := guarded_ok ok
  exact ⟨fun sound => { sound with second := .some range }, rfl⟩

theorem fill_sets {set : Parts → Except Misread Parts}
    (sets : ∀ after, set parts = .ok after → Sets parts after) : Sets parts (fill set parts) := by
  unfold fill
  split
  next filled ok => exact sets filled ok
  next => exact ⟨id, rfl⟩

theorem Sets.trans {middle : Parts} (first : Sets parts middle) (second : Sets middle after) :
    Sets parts after :=
  ⟨fun sound => second.sound (first.sound sound), second.year.trans first.year⟩

/-! ## The year of the day -/

theorem orFill_ok {α : Type} {read next : Parts → Except Misread α} {gaps : Parts → Parts}
    {result : α} (ok : orFill read gaps next parts = .ok result) :
    read parts = .ok result ∨ (read parts = .error .notEnough ∧ next (gaps parts) = .ok result) := by
  unfold orFill at ok
  split at ok
  next missing => exact .inr ⟨missing, ok⟩
  next => exact .inl ok

theorem orFill_of_enough {α : Type} {read next : Parts → Except Misread α} {gaps : Parts → Parts}
    (enough : read parts ≠ .error .notEnough) : orFill read gaps next parts = read parts := by
  unfold orFill
  split
  next missing => exact absurd missing enough
  next => rfl

theorem orFill_of_less {α : Type} {read next : Parts → Except Misread α} {gaps : Parts → Parts}
    (less : read parts = .error .notEnough) :
    orFill read gaps next parts = next (gaps parts) := by
  rw [orFill, less]

theorem calendarDay_ok {day : Int} (ok : calendarDay parts = .ok day) :
    parts.fullYear = .ok (some (Calendar.date day).year) := by
  obtain ⟨year, full, ok⟩ := Outcome.bind_eq_ok.mp ok
  rw [full]
  cases year with
  | none => simp at ok
  | some year =>
      split at ok
      next year' month dayOfMonth _ same _ _ =>
        cases same
        split at ok
        next found read =>
          split at ok
          next =>
            cases ok
            rw [(Calendar.ofDate?_eq_some read).1]
          next => cases ok
        next => cases ok
      next year' ordinal same _ _ =>
        cases same
        split at ok
        next found read =>
          split at ok
          next =>
            cases ok
            rw [(Calendar.ofOrdinal?_eq_some read).1]
          next => cases ok
        next => cases ok
      next => cases ok

theorem calendarDay_enough {year month day : Int} (full : parts.fullYear = .ok (some year))
    (hasMonth : parts.month = some month) (hasDay : parts.day = some day) :
    calendarDay parts ≠ .error .notEnough := by
  intro missing
  rw [calendarDay, full, Outcome.ok_bind] at missing
  simp only [hasMonth, hasDay] at missing
  split at missing
  next => split at missing <;> cases missing
  next => cases missing

theorem fill_guarded {set : Parts → Except Misread Parts} {low high : Int} {old : Option Int}
    (write : Option Int → Parts)
    (step : set parts = do inRange low high value; let new ← agree old value; pure (write new))
    (range : low ≤ value ∧ value ≤ high) (same : write old = parts) :
    fill set parts = write (some (old.getD value)) := by
  rw [fill, step, inRange, if_pos range, Outcome.ok_bind]
  cases old with
  | none => rfl
  | some known =>
      by_cases agrees : known = value
      · simp [agree, agrees, pure, Except.pure]
      · simp [agree, agrees, same, bind, Except.bind]

theorem fill_year (parts : Parts) :
    fill (setYear 1970) parts = { parts with year := some (parts.year.getD 1970) } := by
  refine fill_guarded (fun year => { parts with year }) rfl ?_ rfl
  decide

theorem fill_month (parts : Parts) :
    fill (setMonth 1) parts = { parts with month := some (parts.month.getD 1) } := by
  refine fill_guarded (fun month => { parts with month }) rfl ?_ rfl
  decide

theorem fill_day (parts : Parts) :
    fill (setDay 1) parts = { parts with day := some (parts.day.getD 1) } := by
  refine fill_guarded (fun day => { parts with day }) rfl ?_ rfl
  decide

theorem fill_minute (parts : Parts) :
    fill (setMinute 0) parts = { parts with minute := some (parts.minute.getD 0) } := by
  refine fill_guarded (fun minute => { parts with minute }) rfl ?_ rfl
  decide

theorem fullYear_none (full : parts.fullYear = .ok none) :
    parts.year = none ∧ parts.yearOfCentury = none := by
  unfold fullYear at full
  split at full
  next year absent => exact ⟨Except.ok.inj full, absent⟩
  next => split at full <;> cases full
  next => cases full

theorem fullYear_enough : parts.fullYear ≠ .error .notEnough := by
  intro missing
  unfold fullYear at missing
  split at missing
  next => cases missing
  next => split at missing <;> cases missing
  next => cases missing

/-- A day lies in the year that the parts name, or in 1970 where they name none. -/
theorem filledDay_ok {day : Int} (ok : filledDay parts = .ok day) :
    parts.fullYear = .ok (some (Calendar.date day).year) ∨
      parts.fullYear = .ok none ∧ (Calendar.date day).year = 1970 := by
  unfold filledDay at ok
  rcases orFill_ok ok with first | ⟨-, ok⟩
  · exact .inl (calendarDay_ok first)
  simp only [fill_month, fill_day] at ok
  generalize filled : { parts with
    month := some (parts.month.getD 1), day := some (parts.day.getD 1) } = dated at ok
  have same : dated.fullYear = parts.fullYear := by
    subst filled
    rfl
  rw [← same]
  rcases orFill_ok ok with second | ⟨missing, third⟩
  · exact .inl (calendarDay_ok second)
  -- Month and day are there now, so that what is missing is the year.
  have full : ∀ year, dated.fullYear ≠ .ok (some year) := by
    intro year full
    subst filled
    exact calendarDay_enough full rfl rfl missing
  cases known : dated.fullYear with
  | error fault =>
      rw [calendarDay, known] at missing
      cases missing
      exact absurd known fullYear_enough
  | ok year =>
      cases year with
      | some year => exact absurd known (full year)
      | none =>
          obtain ⟨noYear, noCentury⟩ := fullYear_none known
          have day := calendarDay_ok third
          simp only [fill_year, fullYear, noYear, noCentury] at day
          exact .inr ⟨rfl, (Option.some.inj (Except.ok.inj day)).symm⟩

/-! ## The time of the clock -/

theorem clockTime_lt (sound : parts.Sound) {time nanos : Nat}
    (ok : clockTime parts = .ok (time, nanos)) : time < 86400 := by
  unfold clockTime at ok
  split at ok
  next half hour minute hasHalf hasHour hasMinute =>
    have halves := sound.halfDay half hasHalf
    have hours := sound.halfDayHour hour hasHour
    have minutes := sound.minute minute hasMinute
    generalize shown : (if parts.second = some 60 then ((59 : Int), (1000000000 : Int))
      else (parts.second.getD 0, 0)) = second at ok
    have seconds : 0 ≤ second.1 ∧ second.1 ≤ 59 := by
      subst shown
      split
      next => simp
      next noLeap =>
        cases held : parts.second with
        | none => simp
        | some value =>
            have range := sound.second value held
            have apart : value ≠ 60 := by
              intro same
              exact noLeap (same ▸ held)
            simp only [Option.getD_some]
            omega
    simp only at ok
    split at ok
    next => cases ok
    next =>
      have same := congrArg Prod.fst (Except.ok.inj ok)
      simp only at same
      omega
  next => cases ok

theorem fillHour_sets (parts : Parts) : Sets parts parts.fillHour := by
  unfold fillHour
  split
  next half agreed =>
    obtain ⟨rfl, -⟩ := agree_ok agreed
    have first : Sets parts { parts with halfDay := some 0 } :=
      ⟨fun sound => { sound with halfDay := .some (by omega) }, rfl⟩
    refine first.trans (fill_sets ?_)
    · intro after ok
      obtain ⟨hour, agreed, ok⟩ := Outcome.bind_eq_ok.mp ok
      cases Outcome.pure_eq_ok.mp ok
      obtain ⟨rfl, -⟩ := agree_ok agreed
      exact ⟨fun sound => { sound with halfDayHour := .some (by omega) }, rfl⟩
  next => exact ⟨id, rfl⟩

theorem filledTime_lt (sound : parts.Sound) {time nanos : Nat}
    (ok : filledTime parts = .ok (time, nanos)) : time < 86400 := by
  rcases orFill_ok ok with first | ⟨-, second⟩
  · exact clockTime_lt sound first
  · have minute : Sets parts.fillHour (fill (setMinute 0) parts.fillHour) :=
      fill_sets fun after ok => setMinute_sets ok
    exact clockTime_lt (((fillHour_sets parts).trans minute).sound sound) second

/-! ## The year of the moment -/

theorem toMoment_year (sound : parts.Sound) {moment : Moment}
    (ok : toMoment parts = .ok moment) :
    parts.fullYear = .ok (some moment.year) ∨
      parts.fullYear = .ok none ∧ moment.year = 1970 := by
  obtain ⟨day, dayOk, ok⟩ := Outcome.bind_eq_ok.mp ok
  obtain ⟨⟨time, nanos⟩, timeOk, ok⟩ := Outcome.bind_eq_ok.mp ok
  obtain ⟨offset, -, ok⟩ := Outcome.bind_eq_ok.mp ok
  split at ok
  next found read =>
    cases ok
    rw [Moment.ofLocal?_eq_some read, Moment.year_of_time (filledTime_lt sound timeOk)]
    exact filledDay_ok dayOk
  next => cases ok

end StoreSchema.Date.Parts
