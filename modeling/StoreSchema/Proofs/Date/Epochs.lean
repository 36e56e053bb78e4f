import StoreSchema.Proofs.Date.Moments
import StoreSchema.Proofs.Date.Preferring
import StoreSchema.Proofs.Date.Scanning

/-! # Dates as numbers

Within the years that can be written, a number is read as one moment that counts to that number, and
outside of them it is refused. Of a moment that was counted, the last whole unit that was over comes
back.
-/

namespace StoreSchema

/-! ## Numbers in texts -/

namespace Text

theorem trimStart_shown {text : List Char} (shown : ∀ c ∈ text, isBlank c = false) :
    trimStart text = text := by
  cases text with
  | nil => rfl
  | cons c rest => exact trimStart_cons (shown c List.mem_cons_self) rest

theorem trim_shown {text : List Char} (shown : ∀ c ∈ text, isBlank c = false) :
    trim text = text := by
  have backwards : ∀ c ∈ text.reverse, isBlank c = false := by
    intro c inside
    exact shown c (List.mem_reverse.mp inside)
  rw [trim, trimStart_shown shown, trimStart_shown backwards, List.reverse_reverse]

theorem mem_ofInt {n : Int} {c : Char} (inside : c ∈ ofInt n) : c = '-' ∨ c.isDigit := by
  unfold ofInt at inside
  split at inside
  next =>
    cases List.mem_cons.mp inside with
    | inl sign => exact .inl sign
    | inr digit => exact .inr (isDigit_of_mem_digits digit)
  next => exact .inr (isDigit_of_mem_digits inside)

theorem trim_ofInt (n : Int) : trim (ofInt n) = ofInt n := by
  apply trim_shown
  intro c inside
  rcases mem_ofInt inside with rfl | digit
  · rfl
  · exact not_isBlank_of_isDigit digit

end Text

namespace Number

theorem sign_of_digits {text : List Char} (digits : ∀ c ∈ text, c.isDigit) :
    sign text = (false, text) := by
  unfold sign
  split
  next => exact absurd (digits '-' List.mem_cons_self) (by decide)
  next => exact absurd (digits '+' List.mem_cons_self) (by decide)
  next => rfl

theorem int?_of_sign {text digits : List Char} {negative : Bool} {n : Int}
    (signed : sign text = (negative, digits)) (present : digits ≠ [])
    (all : ∀ c ∈ digits, c.isDigit)
    (value : (if negative then -(Text.ofDigits digits : Int) else Text.ofDigits digits) = n)
    (least : leastInt ≤ n) (greatest : n ≤ greatestInt) : int? text = some n := by
  have guard : (digits.isEmpty || !digits.all Char.isDigit) = false := by
    simpa [present] using all
  simp only [int?, signed, guard, value, Bool.false_eq_true, if_false]
  rw [if_pos ⟨least, greatest⟩]

theorem int?_ofInt {n : Int} (least : leastInt ≤ n) (greatest : n ≤ greatestInt) :
    int? (Text.ofInt n) = some n := by
  have all : ∀ c ∈ Text.digits n.natAbs, c.isDigit := fun _ inside =>
    Text.isDigit_of_mem_digits inside
  have present := Text.digits_ne_nil n.natAbs
  unfold Text.ofInt
  split
  next negative =>
    refine int?_of_sign rfl present all ?_ least greatest
    rw [Text.ofDigits_digits, if_pos rfl]
    omega
  next positive =>
    refine int?_of_sign (sign_of_digits all) present all ?_ least greatest
    rw [Text.ofDigits_digits, if_neg Bool.false_ne_true]
    omega

end Number

/-! ## Years of days -/

namespace Calendar

theorem le_year_iff {day year : Int} : year ≤ (date day).year ↔ firstDay year ≤ day := by
  obtain ⟨first, last⟩ := day_bounds day
  constructor
  · intro before
    have earlier := firstDay_mono before
    omega
  · intro begun
    by_contra after
    have later := firstDay_mono (show (date day).year + 1 ≤ year by omega)
    omega

theorem year_le_iff {day year : Int} : (date day).year ≤ year ↔ day < firstDay (year + 1) := by
  have after : year + 1 ≤ (date day).year ↔ firstDay (year + 1) ≤ day := le_year_iff
  omega

end Calendar

/-! ## Moments in whole units -/

namespace Moment

/-- The moment as it is told at offset zero. -/
def atZero (m : Moment) : Moment :=
  { m with offset := 0 }

/-- A moment does not come after another one. -/
def NotAfter (m other : Moment) : Prop :=
  (m.compare other).isLE

theorem notAfter_iff {m other : Moment} :
    m.NotAfter other ↔
      m.seconds < other.seconds ∨ m.seconds = other.seconds ∧ m.nanos ≤ other.nanos := by
  rw [NotAfter, compare, Ordering.isLE_then_iff_or, Int.compare_eq_lt, compare_eq_iff_eq,
    Nat.isLE_compare]

theorem hasYear_atZero {m : Moment} :
    DateFormat.hasYear m.atZero.year ↔ -62167219200 ≤ m.seconds ∧ m.seconds < 253402300800 := by
  have year : m.atZero.year = (Calendar.date (m.seconds / 86400)).year := by
    simp [atZero, Moment.year, toLocal, secondsPerDay]
  have first : Calendar.firstDay 0 = -719528 := rfl
  have last : Calendar.firstDay (9999 + 1) = 2932897 := rfl
  rw [year, DateFormat.hasYear, Bool.and_eq_true, decide_eq_true_eq, decide_eq_true_eq,
    Calendar.le_year_iff, Calendar.year_le_iff, first, last]
  omega

end Moment

namespace EpochUnit

/-- The nanoseconds of a unit. -/
def nanos : EpochUnit → Nat
  | .millis => 1000000
  | .seconds => 1000000000

/-- The moment at which a number of units is over. -/
def moment (n : Int) : EpochUnit → Moment
  | .millis => ⟨n / 1000, (n % 1000).toNat * 1000000, 0⟩
  | .seconds => ⟨n, 0, 0⟩

/-- The numbers of the moments from the beginning of the year 0 to the end of the year 9999. -/
def InRange (n : Int) : EpochUnit → Prop
  | .millis => -62167219200000 ≤ n ∧ n ≤ 253402300799999
  | .seconds => -62167219200 ≤ n ∧ n ≤ 253402300799

/-- A whole number of units is over at a moment. -/
def OnGrid (unit : EpochUnit) (m : Moment) : Prop :=
  m.nanos < 1000000000 ∧ unit.nanos ∣ m.nanos

/-- The latest moment at which a whole number of units is over, up to a moment. -/
structure Latest (unit : EpochUnit) (m latest : Moment) : Prop where
  onGrid : unit.OnGrid latest
  notAfter : latest.NotAfter m
  greatest : ∀ other : Moment, unit.OnGrid other → other.NotAfter m → other.NotAfter latest

variable {unit : EpochUnit} {m : Moment} {n : Int}

theorem count_moment (unit : EpochUnit) (n : Int) : unit.count (unit.moment n) = n := by
  cases unit with
  | seconds => rfl
  | millis =>
      simp only [count, moment, Moment.epochMillis]
      omega

theorem hasYear_moment : DateFormat.hasYear (unit.moment n).year ↔ unit.InRange n := by
  have zero : (unit.moment n).atZero = unit.moment n := by
    cases unit <;> rfl
  rw [← zero, Moment.hasYear_atZero]
  cases unit with
  | seconds =>
      simp only [moment, InRange]
      omega
  | millis =>
      simp only [moment, InRange]
      omega

theorem inRange_fits (inside : unit.InRange n) : Number.leastInt ≤ n ∧ n ≤ Number.greatestInt := by
  have least : Number.leastInt = -9223372036854775808 := rfl
  have greatest : Number.greatestInt = 9223372036854775807 := rfl
  cases unit <;> (simp only [InRange] at inside; omega)

theorem inRange_count (ordinary : m.nanos < 1000000000) (year : DateFormat.hasYear m.atZero.year) :
    unit.InRange (unit.count m) := by
  have seconds := Moment.hasYear_atZero.mp year
  cases unit with
  | seconds =>
      simp only [count, Moment.epochSeconds, InRange]
      omega
  | millis =>
      simp only [count, Moment.epochMillis, InRange]
      omega

theorem onGrid_moment (unit : EpochUnit) (n : Int) : unit.OnGrid (unit.moment n) := by
  cases unit with
  | seconds => simp [OnGrid, moment]
  | millis =>
      simp only [OnGrid, moment, nanos]
      omega

theorem latest_moment (ordinary : m.nanos < 1000000000) :
    unit.Latest m (unit.moment (unit.count m)) where
  onGrid := onGrid_moment unit _
  notAfter := by
    rw [Moment.notAfter_iff]
    cases unit with
    | seconds => simp [count, moment, Moment.epochSeconds]
    | millis =>
        simp only [count, moment, Moment.epochMillis]
        omega
  greatest := by
    intro other grid before
    obtain ⟨below, whole⟩ := grid
    rw [Moment.notAfter_iff] at before ⊢
    cases unit with
    | seconds =>
        simp only [nanos, count, moment, Moment.epochSeconds] at whole before ⊢
        omega
    | millis =>
        simp only [nanos, count, moment, Moment.epochMillis] at whole before ⊢
        omega

end EpochUnit

/-! ## Formats with a unit -/

namespace DateFormat

variable {format : DateFormat} {unit : EpochUnit}

theorem toEpoch_of_unit (counts : format.epoch = some unit) (m : Moment) :
    format.toEpoch m = unit.count m := by
  cases unit <;> simp [toEpoch, counts, EpochUnit.count]

theorem ofEpoch_of_unit (counts : format.epoch = some unit) (n : Int) :
    format.ofEpoch n =
      if hasYear (unit.moment n).year then .ok (unit.moment n) else .error (.outOfRange n) := by
  cases unit with
  | millis =>
      simp only [ofEpoch, counts]
      rfl
  | seconds =>
      simp only [ofEpoch, counts]
      rfl

theorem ofRaw_ofInt (counts : format.epoch = some unit) {n : Int} (least : Number.leastInt ≤ n)
    (greatest : n ≤ Number.greatestInt) :
    format.ofRaw (String.ofList (Text.ofInt n)) = format.ofEpoch n := by
  have bare : unquoted? (Text.ofInt n) = none := by
    cases written : Text.ofInt n with
    | nil => rfl
    | cons c rest =>
        have sign : c ≠ '"' := by
          rintro rfl
          have inside : '"' ∈ Text.ofInt n := written ▸ List.mem_cons_self
          simpa using Text.mem_ofInt inside
        simp [unquoted?, sign]
  simp only [ofRaw, String.toList_ofList, Text.trim_ofInt, bare, Number.int?_ofInt least greatest,
    counts, Option.isSome_some, if_true]

theorem ofRaw_number (counts : format.epoch = some unit) {n : Int} (inside : unit.InRange n) :
    format.ofRaw (String.ofList (Text.ofInt n)) = .ok (unit.moment n) := by
  obtain ⟨least, greatest⟩ := EpochUnit.inRange_fits inside
  rw [ofRaw_ofInt counts least greatest, ofEpoch_of_unit counts,
    if_pos (EpochUnit.hasYear_moment.mpr inside)]

theorem ofRaw_outside (counts : format.epoch = some unit) {n : Int} (least : Number.leastInt ≤ n)
    (greatest : n ≤ Number.greatestInt) (outside : ¬ unit.InRange n) :
    format.ofRaw (String.ofList (Text.ofInt n)) = .error (.outOfRange n) := by
  rw [ofRaw_ofInt counts least greatest, ofEpoch_of_unit counts,
    if_neg (mt EpochUnit.hasYear_moment.mp outside)]

/-- A number of 64 bits is read exactly where it is one of a moment that can be written, and that
    moment counts to it. -/
structure ReadsNumber (format : DateFormat) (unit : EpochUnit) (n : Int) : Prop where
  reads_iff : (∃ m, format.ofRaw (String.ofList (Text.ofInt n)) = .ok m) ↔ unit.InRange n
  refused : ¬ unit.InRange n → format.ofRaw (String.ofList (Text.ofInt n)) = .error (.outOfRange n)
  counts : ∀ m, format.ofRaw (String.ofList (Text.ofInt n)) = .ok m → format.toEpoch m = n

theorem readsNumber (counts : format.epoch = some unit) {n : Int} (least : Number.leastInt ≤ n)
    (greatest : n ≤ Number.greatestInt) : format.ReadsNumber unit n where
  reads_iff := by
    constructor
    · rintro ⟨m, read⟩
      by_contra outside
      rw [ofRaw_outside counts least greatest outside] at read
      cases read
    · intro inside
      exact ⟨_, ofRaw_number counts inside⟩
  refused := ofRaw_outside counts least greatest
  counts := by
    intro m read
    by_cases inside : unit.InRange n
    · rw [ofRaw_number counts inside] at read
      cases read
      rw [toEpoch_of_unit counts, EpochUnit.count_moment]
    · rw [ofRaw_outside counts least greatest inside] at read
      cases read

/-- The number of a moment is read as the latest moment on the grid of the unit up to that one. A
    format that writes numbers writes that moment the same. -/
structure CountsBack (format : DateFormat) (unit : EpochUnit) (m back : Moment) : Prop where
  read : format.ofRaw (String.ofList (Text.ofInt (format.toEpoch m))) = .ok back
  latest : unit.Latest m back
  written : format.prefersEpoch →
    ∃ value, format.toJson m = .ok value ∧ format.ofJson value = .ok back ∧
      format.toJson back = .ok value

theorem countsBack (counts : format.epoch = some unit) {m : Moment}
    (ordinary : m.nanos < 1000000000) (year : hasYear m.atZero.year) :
    format.CountsBack unit m (unit.moment (unit.count m)) := by
  have read : format.ofRaw (String.ofList (Text.ofInt (unit.count m))) =
      .ok (unit.moment (unit.count m)) :=
    ofRaw_number counts (EpochUnit.inRange_count ordinary year)
  refine ⟨?_, EpochUnit.latest_moment ordinary, ?_⟩
  · rw [toEpoch_of_unit counts]
    exact read
  · intro numbers
    refine ⟨.int (unit.count m), toJson_of_unit numbers counts m, read, ?_⟩
    rw [toJson_of_unit numbers counts, EpochUnit.count_moment]

end DateFormat

/-- In a format with a unit, numbers are exact within the years that can be written and refused
    outside of them, and moments are counted in whole units that are over. -/
theorem numbers_are_exact {format : DateFormat} {unit : EpochUnit}
    (counts : format.epoch = some unit) :
    (∀ n : Int, Number.leastInt ≤ n → n ≤ Number.greatestInt → format.ReadsNumber unit n) ∧
      ∀ m : Moment, m.nanos < 1000000000 → DateFormat.hasYear m.atZero.year →
        ∃ back, format.CountsBack unit m back := by
  constructor
  · intro n least greatest
    exact DateFormat.readsNumber counts least greatest
  · intro m ordinary year
    exact ⟨_, DateFormat.countsBack counts ordinary year⟩

namespace Sample

/-- Three quarters of a millisecond before the start of 1970, told an hour east. -/
def eve : Moment := ⟨-1, 999250000, 3600⟩

end Sample

theorem sample_numbers_are_exact :
    Sample.slashes.ReadsNumber .seconds 253402300800 ∧
      ∃ back, Sample.seconds.CountsBack .seconds Sample.eve back := by
  have slashes : Sample.slashes.epoch = some .seconds := rfl
  have seconds : Sample.seconds.epoch = some .seconds := rfl
  have year : DateFormat.hasYear Sample.eve.atZero.year := rfl
  exact ⟨(numbers_are_exact slashes).1 253402300800 (by decide) (by decide),
    (numbers_are_exact seconds).2 Sample.eve (by decide) year⟩

end StoreSchema
