import StoreSchema.Date.Moment
import StoreSchema.Proofs.Date.Calendar

/-! # What a clock shows

A moment that a day, a time of day and an offset determine shows that day and that time at its
offset.
-/

namespace StoreSchema.Moment

open Calendar (hasDay leastYear greatestYear)

theorem ofLocal?_eq_some {day offset : Int} {time nanos : Nat} {found : Moment}
    (read : ofLocal? day time nanos offset = some found) :
    found = ⟨day * secondsPerDay + time - offset, nanos, offset⟩ := by
  simp only [ofLocal?] at read
  split at read
  next =>
    cases read
    rfl
  next => cases read

/-- The clock shows the time of day that determines a moment, and a leap second as one more. -/
theorem toLocal_of_time {day offset : Int} {time nanos : Nat} (within : time < 86400) :
    toLocal ⟨day * secondsPerDay + time - offset, nanos, offset⟩ =
      { date := Calendar.date day
        weekday := Calendar.weekday day
        hour := time / 3600
        minute := time / 60 % 60
        second := time % 60 + nanos / nanosPerSecond
        nanos := nanos % nanosPerSecond } := by
  have days : (day * secondsPerDay + time - offset + offset) / secondsPerDay = day := by
    unfold secondsPerDay
    omega
  have times : ((day * secondsPerDay + time - offset + offset) % secondsPerDay).toNat = time := by
    unfold secondsPerDay
    omega
  simp only [toLocal, days, times]

theorem year_of_time {day offset : Int} {time nanos : Nat} (within : time < 86400) :
    year ⟨day * secondsPerDay + time - offset, nanos, offset⟩ = (Calendar.date day).year := by
  rw [year, toLocal_of_time within]

/-! ## Moments that can be written -/

/-- What a clock and a calendar show within the years that can be written. -/
structure Local.Valid (time : Local) : Prop where
  year : 0 ≤ time.date.year ∧ time.date.year ≤ 9999
  month : 1 ≤ time.date.month ∧ time.date.month ≤ 12
  day : 1 ≤ time.date.day ∧ time.date.day ≤ 31
  ordinal : 1 ≤ time.date.ordinal ∧ time.date.ordinal ≤ 366
  hour : time.hour < 24
  minute : time.minute < 60
  second : time.second ≤ 60
  nanos : time.nanos < 1000000000

/-- A moment is told in a year that can be written, at an offset of whole minutes within a day. A
    leap second is the one behind the last second of a minute. -/
structure Writable (m : Moment) : Prop where
  year : 0 ≤ m.year ∧ m.year ≤ 9999
  offset : -86400 < m.offset ∧ m.offset < 86400
  wholeMinutes : m.offset % 60 = 0
  nanos : m.nanos < 2000000000
  leap : 1000000000 ≤ m.nanos → (m.seconds + m.offset) % 60 = 59

theorem exists_time (m : Moment) :
    ∃ (day : Int) (time : Nat), time < 86400 ∧ time % 60 = ((m.seconds + m.offset) % 60).toNat ∧
      m = ⟨day * secondsPerDay + time - m.offset, m.nanos, m.offset⟩ := by
  refine ⟨(m.seconds + m.offset) / 86400, ((m.seconds + m.offset) % 86400).toNat, by omega,
    by omega, ?_⟩
  obtain ⟨seconds, nanos, offset⟩ := m
  simp only [Moment.mk.injEq, secondsPerDay, and_self, and_true]
  omega

theorem Writable.valid {m : Moment} (writable : m.Writable) : m.toLocal.Valid := by
  obtain ⟨day, time, within, minute, same⟩ := exists_time m
  have shown := Calendar.shown day
  have year := writable.year
  have clock : m.toLocal = _ := (congrArg toLocal same).trans (toLocal_of_time within)
  rw [Moment.year] at year
  rw [clock] at year ⊢
  have nanos := writable.nanos
  refine ⟨year, shown.month, shown.dayOfMonth, shown.ordinal, ?_, ?_, ?_, ?_⟩
  · simp only
    omega
  · simp only
    omega
  · have most : m.nanos / nanosPerSecond ≤ 1 := by
      unfold nanosPerSecond
      omega
    simp only
    omega
  · simp only [nanosPerSecond]
    omega

end StoreSchema.Moment
