import StoreSchema.Proofs.Date.Parts
import StoreSchema.Proofs.Date.Told

/-! # Numbers of a date

Items that read numbers of the year, the month, the day and the clock leave parts that lie in their
ranges and name the hour as a whole.
-/

namespace StoreSchema.Date

/-- Whether an item reads numbers of the year, the month, the day or the clock, or nothing. -/
def Item.numeric : Item → Bool
  | .number part _ => part.plain
  | .literal _ | .space _ | .fraction | .pointed _ | .bare _ | .offset => true
  | _ => false

namespace Parts

variable {parts after : Parts} {value : Int}

/-- The hour of the day. -/
def hour? (parts : Parts) : Option Int :=
  parts.halfDay.bind fun half => parts.halfDayHour.map (12 * half + ·)

/-- Parts lie in their ranges, nothing is known of the weekday and of a year of two digits, and both
    parts of the hour are known or none. -/
structure Numeric (parts : Parts) : Prop where
  yearOfCentury : parts.yearOfCentury = none
  weekday : parts.weekday = none
  month : Within 1 12 parts.month
  day : Within 1 31 parts.day
  ordinal : Within 1 366 parts.ordinal
  halfDay : parts.halfDay = parts.hour?.map (· / 12)
  halfDayHour : parts.halfDayHour = parts.hour?.map (· % 12)
  hour : Within 0 23 parts.hour?
  minute : Within 0 59 parts.minute
  second : Within 0 60 parts.second
  nanos : Within 0 999999999 parts.nanos

theorem Numeric.empty : Numeric {} where
  yearOfCentury := rfl
  weekday := rfl
  month := .none 1 12
  day := .none 1 31
  ordinal := .none 1 366
  halfDay := rfl
  halfDayHour := rfl
  hour := .none 0 23
  minute := .none 0 59
  second := .none 0 60
  nanos := .none 0 999999999

theorem setHour_ok (ok : setHour value parts = .ok after) :
    (0 ≤ value ∧ value ≤ 23) ∧
      after = { parts with halfDay := some (value / 12), halfDayHour := some (value % 12) } := by
  obtain ⟨_, range, ok⟩ := Outcome.bind_eq_ok.mp ok
  obtain ⟨half, agreed, ok⟩ := Outcome.bind_eq_ok.mp ok
  obtain ⟨rfl, -⟩ := agree_ok agreed
  exact ⟨inRange_ok range, unguarded_ok ok⟩

theorem hour?_known (parts : Parts) (value : Int) :
    hour? { parts with halfDay := some (value / 12), halfDayHour := some (value % 12) } =
      some value := by
  simp only [hour?, Option.bind_some, Option.map_some, Option.some.injEq]
  omega

theorem setNanos_numeric (numeric : parts.Numeric) (ok : setNanos value parts = .ok after) :
    after.Numeric := by
  obtain ⟨range, rfl, -⟩ := guarded_ok ok
  exact { numeric with nanos := .some range }

theorem setOffset_numeric (numeric : parts.Numeric) (ok : setOffset value parts = .ok after) :
    after.Numeric := by
  cases unguarded_ok ok
  exact { numeric with }

end Parts

section Scanning

variable {parts after final : Parts} {text rest : List Char} {value : Int}

theorem NumberPart.set_numeric {part : NumberPart} (plain : part.plain) (numeric : parts.Numeric)
    (ok : part.set value parts = .ok after) : after.Numeric := by
  cases part with
  | yearOfCentury | halfDayHour => cases plain
  | year =>
      obtain ⟨-, rfl, -⟩ := Parts.guarded_ok ok
      exact { numeric with }
  | month =>
      obtain ⟨range, rfl, -⟩ := Parts.guarded_ok ok
      exact { numeric with month := .some range }
  | day =>
      obtain ⟨range, rfl, -⟩ := Parts.guarded_ok ok
      exact { numeric with day := .some range }
  | ordinal =>
      obtain ⟨range, rfl, -⟩ := Parts.guarded_ok ok
      exact { numeric with ordinal := .some range }
  | hour =>
      obtain ⟨range, rfl⟩ := Parts.setHour_ok ok
      have hour := Parts.hour?_known parts value
      refine { numeric with halfDay := ?_, halfDayHour := ?_, hour := ?_ }
      · rw [hour]
        rfl
      · rw [hour]
        rfl
      · rw [hour]
        exact .some range
  | minute =>
      obtain ⟨range, rfl, -⟩ := Parts.guarded_ok ok
      exact { numeric with minute := .some range }
  | second =>
      obtain ⟨range, rfl, -⟩ := Parts.guarded_ok ok
      exact { numeric with second := .some range }

theorem Item.scan_numeric {item : Item} (reads : item.numeric) (numeric : parts.Numeric)
    (ok : item.scan parts text = .ok (after, rest)) : after.Numeric := by
  cases item with
  | shortMonth | longMonth | shortWeekday | longWeekday | halfDay => cases reads
  | literal expected =>
      obtain ⟨left, -, ok⟩ := Outcome.bind_eq_ok.mp ok
      cases ok
      exact numeric
  | space blanks =>
      cases ok
      exact numeric
  | number part padded =>
      obtain ⟨⟨number, left⟩, -, ok⟩ := Outcome.bind_eq_ok.mp ok
      obtain ⟨set, setOk, ok⟩ := Outcome.bind_eq_ok.mp ok
      cases ok
      exact NumberPart.set_numeric reads numeric setOk
  | fraction | pointed precision =>
      unfold Item.scan at ok
      simp only at ok
      split at ok
      next =>
        obtain ⟨⟨nanos, left⟩, -, ok⟩ := Outcome.bind_eq_ok.mp ok
        obtain ⟨set, setOk, ok⟩ := Outcome.bind_eq_ok.mp ok
        cases ok
        exact Parts.setNanos_numeric numeric setOk
      next =>
        cases ok
        exact numeric
  | bare precision =>
      obtain ⟨⟨nanos, left⟩, -, ok⟩ := Outcome.bind_eq_ok.mp ok
      obtain ⟨set, setOk, ok⟩ := Outcome.bind_eq_ok.mp ok
      cases ok
      exact Parts.setNanos_numeric numeric setOk
  | offset =>
      obtain ⟨⟨offset, left⟩, -, ok⟩ := Outcome.bind_eq_ok.mp ok
      obtain ⟨set, setOk, ok⟩ := Outcome.bind_eq_ok.mp ok
      cases ok
      exact Parts.setOffset_numeric numeric setOk

theorem scanItems_numeric {items : List Item} (reads : items.all Item.numeric)
    (numeric : parts.Numeric) (ok : scanItems parts text items = .ok final) : final.Numeric := by
  induction items generalizing parts text with
  | nil =>
      unfold scanItems at ok
      split at ok
      next =>
        cases ok
        exact numeric
      next => cases ok
  | cons item rest ih =>
      obtain ⟨⟨after, left⟩, step, ok⟩ := Outcome.bind_eq_ok.mp ok
      obtain ⟨first, later⟩ := Bool.and_eq_true_iff.mp reads
      exact ih later (Item.scan_numeric first numeric step) ok

end Scanning

end StoreSchema.Date
