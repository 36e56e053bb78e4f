import Mathlib.Data.List.TakeWhile
import StoreSchema.Proofs.Date.Compiling
import StoreSchema.Proofs.Date.Parts
import StoreSchema.Proofs.Text.Decimal

/-! # Years of dates that were read

A date that was read from a number can be written, as numbers out of range are refused. A date that
was read from a text can be written unless its year stands there with a sign and is out of range:
without a sign a year has four digits at most.
-/

namespace StoreSchema

namespace Date

variable {parts after : Parts} {text rest : List Char} {value : Int}

/-! ## Reading items -/

theorem Scan.number_lt {most : Nat} (ok : Scan.number (some most) text = .ok (value, rest)) :
    0 ≤ value ∧ value < 10 ^ most := by
  simp only [Scan.number] at ok
  generalize taken : (text.take most).takeWhile Char.isDigit = digits at ok
  have all : ∀ c ∈ digits, c.isDigit := by
    intro c inside
    rw [← taken] at inside
    exact List.mem_takeWhile_imp inside
  have short : digits.length ≤ most := by
    rw [← taken]
    exact (List.takeWhile_prefix _).length_le.trans (List.length_take_le most text)
  have bound := (Text.ofDigits_lt all).trans_le (Nat.pow_le_pow_right (by omega) short)
  split at ok
  next => cases ok
  next =>
    split at ok
    next => cases ok
    next =>
      split at ok
      next => cases ok
      next =>
        have same := congrArg Prod.fst (Except.ok.inj ok)
        simp only at same
        rw [← same]
        exact ⟨Int.natCast_nonneg _, by exact_mod_cast bound⟩

theorem Scan.halfDay_ok (ok : Scan.halfDay text = .ok (value, rest)) : 0 ≤ value ∧ value ≤ 1 := by
  obtain ⟨-, -, ok⟩ := Outcome.bind_eq_ok.mp ok
  split at ok
  next =>
    cases ok
    omega
  next =>
    split at ok
    next =>
      cases ok
      omega
    next => cases ok

theorem NumberPart.set_sets {part : NumberPart} (other : part ≠ .year)
    (ok : part.set value parts = .ok after) : parts.Sets after := by
  cases part with
  | year => exact absurd rfl other
  | yearOfCentury => exact Parts.setYearOfCentury_sets ok
  | month => exact Parts.guarded_sets ok fun _ => rfl
  | day => exact Parts.guarded_sets ok fun _ => rfl
  | ordinal => exact Parts.guarded_sets ok fun _ => rfl
  | hour => exact Parts.setHour_sets ok
  | halfDayHour => exact Parts.setHalfDayHour_sets ok
  | minute => exact Parts.setMinute_sets ok
  | second => exact Parts.setSecond_sets ok

theorem Item.scan_sets {item : Item} (other : ∀ padded, item ≠ .number .year padded)
    (ok : item.scan parts text = .ok (after, rest)) : parts.Sets after := by
  cases item with
  | literal expected =>
      obtain ⟨left, -, ok⟩ := Outcome.bind_eq_ok.mp ok
      cases ok
      exact ⟨id, rfl⟩
  | space blanks =>
      cases ok
      exact ⟨id, rfl⟩
  | number part padded =>
      obtain ⟨⟨number, left⟩, -, ok⟩ := Outcome.bind_eq_ok.mp ok
      obtain ⟨set, setOk, ok⟩ := Outcome.bind_eq_ok.mp ok
      cases ok
      refine NumberPart.set_sets ?_ setOk
      intro same
      exact other padded (same ▸ rfl)
  | shortMonth | longMonth =>
      obtain ⟨⟨index, left⟩, -, ok⟩ := Outcome.bind_eq_ok.mp ok
      obtain ⟨set, setOk, ok⟩ := Outcome.bind_eq_ok.mp ok
      cases ok
      exact Parts.guarded_sets setOk fun _ => rfl
  | shortWeekday | longWeekday =>
      obtain ⟨⟨index, left⟩, -, ok⟩ := Outcome.bind_eq_ok.mp ok
      obtain ⟨set, setOk, ok⟩ := Outcome.bind_eq_ok.mp ok
      cases ok
      exact Parts.unguarded_sets setOk fun _ => rfl
  | halfDay =>
      obtain ⟨⟨half, left⟩, read, ok⟩ := Outcome.bind_eq_ok.mp ok
      obtain ⟨set, setOk, ok⟩ := Outcome.bind_eq_ok.mp ok
      cases ok
      exact Parts.setHalfDay_sets (Scan.halfDay_ok read) setOk
  | fraction | pointed precision =>
      unfold Item.scan at ok
      simp only at ok
      split at ok
      next =>
        obtain ⟨⟨nanos, left⟩, -, ok⟩ := Outcome.bind_eq_ok.mp ok
        obtain ⟨set, setOk, ok⟩ := Outcome.bind_eq_ok.mp ok
        cases ok
        exact Parts.guarded_sets setOk fun _ => rfl
      next =>
        cases ok
        exact ⟨id, rfl⟩
  | bare precision =>
      obtain ⟨⟨nanos, left⟩, -, ok⟩ := Outcome.bind_eq_ok.mp ok
      obtain ⟨set, setOk, ok⟩ := Outcome.bind_eq_ok.mp ok
      cases ok
      exact Parts.guarded_sets setOk fun _ => rfl
  | offset =>
      obtain ⟨⟨offset, left⟩, -, ok⟩ := Outcome.bind_eq_ok.mp ok
      obtain ⟨set, setOk, ok⟩ := Outcome.bind_eq_ok.mp ok
      cases ok
      exact Parts.unguarded_sets setOk fun _ => rfl

/-! ## Years with a sign -/

/-- The years that an item finds at the front of a text behind a sign, which then is a part. -/
def Item.signedYear (text : List Char) (after : Parts) : Item → List Int
  | .number .year _ =>
    match Text.trimStart text with
    | '+' :: _ | '-' :: _ => after.year.toList
    | _ => []
  | _ => []

/-- The years that items find behind a sign, as they are taken off a text. -/
def signedYears (parts : Parts) (text : List Char) : List Item → List Int
  | [] => []
  | item :: rest =>
    match item.scan parts text with
    | .ok (after, left) => item.signedYear text after ++ signedYears after left rest
    | .error _ => []

def Layout.signedYears (layout : Layout) (text : List Char) : List Int :=
  Date.signedYears {} text layout.items

/-- The year that was read, if any, can be written. -/
def Parts.YearInRange (parts : Parts) : Prop :=
  ∀ year, parts.year = some year → DateFormat.hasYear year

theorem year_scan {padded : Bool}
    (ok : (Item.number .year padded).scan parts text = .ok (after, rest)) :
    ∃ year, Scan.year (Text.trimStart text) = .ok (year, rest) ∧
      after = { parts with year := some year } ∧
      (parts.year = none ∨ parts.year = some year) := by
  obtain ⟨⟨year, left⟩, read, ok⟩ := Outcome.bind_eq_ok.mp ok
  obtain ⟨set, setOk, ok⟩ := Outcome.bind_eq_ok.mp ok
  cases ok
  exact ⟨year, read, Parts.setYear_ok setOk⟩

theorem unsigned_year (noPlus : ∀ others, text ≠ '+' :: others)
    (noMinus : ∀ others, text ≠ '-' :: others) (ok : Scan.year text = .ok (value, rest)) :
    DateFormat.hasYear value := by
  unfold Scan.year at ok
  split at ok
  next others => exact absurd rfl (noMinus others)
  next others => exact absurd rfl (noPlus others)
  next =>
    have range := Scan.number_lt ok
    simp only [DateFormat.hasYear, Bool.and_eq_true, decide_eq_true_eq]
    omega

/-- The year that an item leaves can be written if the one before can, and the one that the item
    found behind a sign. -/
theorem year_step {item : Item} (ok : item.scan parts text = .ok (after, rest)) :
    after.YearInRange ↔
      parts.YearInRange ∧ ∀ year ∈ item.signedYear text after, DateFormat.hasYear year := by
  by_cases full : ∃ padded, item = .number .year padded
  · obtain ⟨padded, rfl⟩ := full
    obtain ⟨year, read, rfl, known⟩ := year_scan ok
    have afterRange : Parts.YearInRange { parts with year := some year } ↔
        DateFormat.hasYear year := by
      simp [Parts.YearInRange]
    have beforeRange : DateFormat.hasYear year → parts.YearInRange := by
      intro range other same
      cases known with
      | inl none => simp [none] at same
      | inr some =>
          cases some.symm.trans same
          exact range
    rw [afterRange]
    simp only [Item.signedYear]
    generalize Text.trimStart text = front at read
    split
    next => simpa using beforeRange
    next => simpa using beforeRange
    next noPlus noMinus =>
      have range := unsigned_year noPlus noMinus read
      simp [range, beforeRange range]
  · have other : ∀ padded, item ≠ .number .year padded := fun padded same => full ⟨padded, same⟩
    have none : item.signedYear text after = [] := by
      unfold Item.signedYear
      split
      next padded => exact absurd rfl (other padded)
      next => rfl
    rw [none, Parts.YearInRange, (Item.scan_sets other ok).year]
    simp [Parts.YearInRange]

/-- The year that was read can be written if all years behind a sign can. -/
theorem scanItems_year {items : List Item} {final : Parts}
    (ok : scanItems parts text items = .ok final) (sound : parts.Sound) :
    final.Sound ∧ (final.YearInRange ↔
      parts.YearInRange ∧ ∀ year ∈ signedYears parts text items, DateFormat.hasYear year) := by
  induction items generalizing parts text with
  | nil =>
      unfold scanItems at ok
      split at ok
      next =>
        cases ok
        simp [signedYears, sound]
      next => cases ok
  | cons item rest ih =>
      obtain ⟨⟨after, left⟩, step, ok⟩ := Outcome.bind_eq_ok.mp ok
      have afterSound : after.Sound := by
        by_cases full : ∃ padded, item = .number .year padded
        · obtain ⟨padded, rfl⟩ := full
          obtain ⟨year, -, rfl, -⟩ := year_scan step
          exact { sound with }
        · exact (Item.scan_sets (fun padded same => full ⟨padded, same⟩) step).sound sound
      obtain ⟨finalSound, year⟩ := ih ok afterSound
      refine ⟨finalSound, ?_⟩
      rw [year, year_step step, signedYears, step, List.forall_mem_append, and_assoc]

theorem Layout.scan_year {layout : Layout} {moment : Moment}
    (ok : layout.scan text = .ok moment) :
    DateFormat.hasYear moment.year ↔
      ∀ year ∈ layout.signedYears text, DateFormat.hasYear year := by
  obtain ⟨parts, scanned, resolved⟩ := Outcome.bind_eq_ok.mp ok
  obtain ⟨sound, range⟩ := scanItems_year scanned .empty
  have told : DateFormat.hasYear moment.year ↔ parts.YearInRange := by
    rcases Parts.toMoment_year sound resolved with full | ⟨full, year⟩
    · unfold Parts.fullYear at full
      split at full
      next year absent =>
        have same := Except.ok.inj full
        simp [Parts.YearInRange, same]
      next year two known _ =>
        split at full
        next =>
          cases full
          simp [Parts.YearInRange, known]
        next => cases full
      next two unknown known =>
        have bounds := sound.yearOfCentury two known
        have inRange : DateFormat.hasYear moment.year := by
          rw [← Option.some.inj (Except.ok.inj full)]
          simp only [DateFormat.hasYear, Bool.and_eq_true, decide_eq_true_eq]
          split <;> omega
        simp [Parts.YearInRange, unknown, inRange]
    · have absent := (Parts.fullYear_none full).1
      simp [Parts.YearInRange, absent, year, DateFormat.hasYear]
  rw [told, range]
  simp [Parts.YearInRange, Layout.signedYears]

end Date

/-! ## What gets in and out -/

namespace DateFormat

variable {format : DateFormat} {moment : Moment}

/-- How a date got in, and what that says about its year. -/
inductive Origin (format : DateFormat) (raw : List Char) (moment : Moment) : Prop where
  | number {value : Int} (digits : Number.int? raw = some value)
      (read : format.ofEpoch value = .ok moment) (year : hasYear moment.year) :
      Origin format raw moment
  | text {text : List Char} {layout : Date.Layout} (quoted : unquoted? raw = some text)
      (listed : layout ∈ format.layouts) (read : layout.scan text = .ok moment)
      (year : hasYear moment.year ↔ ∀ year ∈ layout.signedYears text, hasYear year) :
      Origin format raw moment

/-- A date can be written, as a text and as a value. -/
structure GetsOut (format : DateFormat) (moment : Moment) : Prop where
  text : ∃ text, format.toText moment = .ok text
  json : ∃ value, format.toJson moment = .ok value

theorem tryLayouts_ok {text : List Char} {layouts : List Date.Layout}
    (ok : tryLayouts text layouts = .ok moment) :
    ∃ layout ∈ layouts, layout.scan text = .ok moment := by
  induction layouts with
  | nil => cases ok
  | cons layout rest ih =>
      rw [tryLayouts] at ok
      cases scanned : layout.scan text with
      | ok first =>
          simp only [scanned] at ok
          cases ok
          exact ⟨layout, List.mem_cons_self, scanned⟩
      | error misread =>
          simp only [scanned] at ok
          split at ok
          next later =>
            cases ok
            obtain ⟨other, inside, read⟩ := ih later
            exact ⟨other, List.mem_cons_of_mem layout inside, read⟩
          next => cases ok

theorem ofEpoch_year {value : Int} (ok : format.ofEpoch value = .ok moment) :
    hasYear moment.year := by
  have guarded : ∀ counted : Moment,
      (if hasYear counted.year then .ok counted else .error (.outOfRange value)) =
        (.ok moment : Except ValueFault Moment) → hasYear moment.year := by
    intro counted ok
    split at ok
    next range =>
      cases ok
      exact range
    next => cases ok
  exact guarded _ ok

theorem ofRaw_origin {raw : String} (ok : format.ofRaw raw = .ok moment) :
    format.Origin (Text.trim raw.toList) moment := by
  unfold ofRaw at ok
  simp only at ok
  split at ok
  next text quoted =>
    unfold ofText at ok
    rw [String.toList_ofList] at ok
    split at ok
    next tried =>
      cases ok
      obtain ⟨layout, listed, read⟩ := tryLayouts_ok tried
      exact .text quoted listed read (Date.Layout.scan_year read)
    next => cases ok
  next =>
    split at ok
    next value digits =>
      split at ok
      next => exact .number digits ok (ofEpoch_year ok)
      next => cases ok
    next => cases ok

theorem getsOut_iff : format.GetsOut moment ↔ format.written = none ∨ hasYear moment.year := by
  constructor
  · rintro ⟨⟨text, written⟩, -⟩
    unfold toText at written
    split at written
    next absent => exact .inl absent
    next layout _ =>
      split at written
      next range => exact .inr range
      next => cases written
  · intro either
    have text : ∃ text, format.toText moment = .ok text := by
      unfold toText
      cases either with
      | inl absent => exact ⟨_, by rw [absent]⟩
      | inr range =>
          split
          next => exact ⟨_, rfl⟩
          next => exact ⟨_, by rw [if_pos range]⟩
    refine ⟨text, ?_⟩
    obtain ⟨text, written⟩ := text
    unfold toJson
    split
    next => exact ⟨_, rfl⟩
    next => exact ⟨.str text, by rw [written]; rfl⟩

end DateFormat

/-- A date that got in gets out, unless its year was written with a sign and is out of range. -/
theorem gets_in_gets_out {format : DateFormat} {raw : String} {moment : Moment}
    (read : format.ofRaw raw = .ok moment) :
    format.Origin (Text.trim raw.toList) moment ∧
      (format.GetsOut moment ↔
        format.written = none ∨ DateFormat.hasYear moment.year) :=
  ⟨DateFormat.ofRaw_origin read, DateFormat.getsOut_iff⟩

namespace Sample

/-- The layout of `strict_date`. -/
def strictDate : Date.Layout :=
  ⟨[.number .year true, .literal ['-'], .number .month true, .literal ['-'],
    .number .day true]⟩

theorem strictDate_main : Date.mainItems? "yyyy-MM-dd".toList = some strictDate.items := by
  decide +kernel

/-- A leap day. -/
def leapDay : Moment := ⟨1582934400, 0, 0⟩

/-- The first day of the year 12345. -/
def farDay : Moment := ⟨327403382400, 0, 0⟩

/-- The format `strict_date`. -/
def strictFormat : DateFormat :=
  ⟨"strict_date", [strictDate], none, some strictDate, false⟩

theorem leapDay_read : strictFormat.ofRaw "\"2020-02-29\"" = .ok leapDay := by
  have quoted : DateFormat.unquoted? (Text.trim "\"2020-02-29\"".toList) =
      some "2020-02-29".toList := by
    rfl
  exact DateFormat.ofRaw_first quoted rfl (by with_unfolding_all rfl)

theorem farDay_read {format : DateFormat} {others : List Date.Layout}
    (layouts : format.layouts = strictDate :: others) :
    format.ofRaw "\"+12345-01-01\"" = .ok farDay := by
  have quoted : DateFormat.unquoted? (Text.trim "\"+12345-01-01\"".toList) =
      some "+12345-01-01".toList := by
    rfl
  exact DateFormat.ofRaw_first quoted layouts (by with_unfolding_all rfl)

theorem farDay_year : farDay.year = 12345 :=
  rfl

end Sample

theorem sample_gets_in_gets_out :
    Sample.strictFormat.Origin (Text.trim "\"2020-02-29\"".toList) Sample.leapDay ∧
      (Sample.strictFormat.GetsOut Sample.leapDay ↔
        Sample.strictFormat.written = none ∨ DateFormat.hasYear Sample.leapDay.year) :=
  gets_in_gets_out Sample.leapDay_read

/-- A year of five digits gets in behind its sign, and does not get out. -/
theorem sample_signed_year_stays :
    ∃ format, DateFormat.compile "strict_date" none false = .ok format ∧
      format.ofRaw "\"+12345-01-01\"" = .ok Sample.farDay ∧
      Sample.farDay.year = 12345 ∧
      format.toText Sample.farDay = .error (.yearOutOfRange 12345) ∧
      format.toJson Sample.farDay = .error (.yearOutOfRange 12345) := by
  have gathered : DateFormat.gather "strict_date" none [] (DateFormat.listed "strict_date") =
      .ok (none, ["yyyy-MM-dd"]) := by
    with_unfolding_all rfl
  obtain ⟨others, compiled⟩ := DateFormat.compile_pattern gathered Sample.strictDate_main
  have refused : ∀ format : DateFormat, format.written = some Sample.strictDate →
      format.toText Sample.farDay = .error (.yearOutOfRange 12345) := by
    intro format written
    simp only [DateFormat.toText, written, Sample.farDay_year]
    rfl
  refine ⟨_, compiled, Sample.farDay_read rfl, Sample.farDay_year, refused _ rfl, ?_⟩
  rw [DateFormat.toJson, refused _ rfl]
  rfl

end StoreSchema
