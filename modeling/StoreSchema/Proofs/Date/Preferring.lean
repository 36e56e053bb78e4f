import StoreSchema.Date.Format
import StoreSchema.Proofs.Outcome

/-! # Preferred formats

A preferred format decides how dates are written. As a pattern it is written in the first layout of
the pattern, which the format has to have. As a marker it makes dates numbers; then the format has
to have a marker, but it may be the one of the other unit.
-/

namespace StoreSchema

/-! ## Epoch markers -/

namespace EpochUnit

def marker : EpochUnit → String
  | .millis => "epoch_millis"
  | .seconds => "epoch_second"

theorem marker_injective : Function.Injective marker := by
  intro one other same
  cases one <;> cases other <;> simp_all [marker]

theorem ofMarker?_eq_some {text : String} {unit : EpochUnit} :
    ofMarker? text = some unit ↔ text = unit.marker := by
  constructor
  · intro found
    unfold ofMarker? at found
    split at found <;> cases found <;> rfl
  · rintro rfl
    cases unit <;> rfl

theorem ofMarker?_eq_none {text : String} :
    ofMarker? text = none ↔ ∀ unit : EpochUnit, text ≠ unit.marker := by
  rw [Option.eq_none_iff_forall_ne_some]
  exact forall_congr' fun unit => not_congr ofMarker?_eq_some

/-- The number of a moment in a unit. -/
def count (moment : Moment) : EpochUnit → Int
  | .millis => moment.epochMillis
  | .seconds => moment.epochSeconds

end EpochUnit

namespace DateFormat

variable {source : String} {format : DateFormat}

theorem toJson_of_unit {unit : EpochUnit} (numbers : format.prefersEpoch = true)
    (counts : format.epoch = some unit) (moment : Moment) :
    format.toJson moment = .ok (.int (unit.count moment)) := by
  rw [toJson, if_pos numbers]
  cases unit <;> simp [toEpoch, counts, EpochUnit.count]

theorem gather_epoch {names patterns : List String} {epoch : Option EpochUnit}
    {result : Option EpochUnit × List String}
    (gathered : gather source epoch patterns names = .ok result) (unit : EpochUnit) :
    result.1 = some unit ↔ epoch = some unit ∨ unit.marker ∈ names := by
  induction names generalizing epoch patterns with
  | nil =>
      cases gathered
      simp
  | cons name rest ih =>
      rw [gather] at gathered
      split at gathered
      next own marks =>
        split at gathered
        next => cases gathered
        next fresh =>
          have listed := ih gathered
          rw [EpochUnit.ofMarker?_eq_some] at marks
          simp only [Option.not_isSome_iff_eq_none] at fresh
          rw [listed, fresh, marks, List.mem_cons, EpochUnit.marker_injective.eq_iff,
            Option.some.injEq]
          simp [eq_comm]
      next unmarked =>
        dsimp only at gathered
        split at gathered
        next => cases gathered
        next =>
          have other := EpochUnit.ofMarker?_eq_none.mp unmarked unit
          rw [ih gathered, List.mem_cons, or_iff_right (Ne.symm other)]

/-! ## Preferences -/

/-- The format that a preference makes of the layouts and the unit of a source. -/
def settled (source : String) (layouts : List Date.Layout) (epoch : Option EpochUnit)
    (preferEpoch : Bool) : Preference → DateFormat
  | .nothing =>
    ⟨source, layouts, epoch, layouts.head?, layouts.isEmpty || (preferEpoch && epoch.isSome)⟩
  | .epoch => ⟨source, layouts, epoch, layouts.head?, true⟩
  | .layout layout =>
    ⟨source, layouts, epoch, some layout, layouts.isEmpty || (preferEpoch && epoch.isSome)⟩

/-- The text that a preferred format states; blanks around it do not count. -/
def preferredText (preferred : String) : String :=
  String.ofList (Text.trim preferred.toList)

theorem compile_eq_ok {preferred : Option String} {preferEpoch : Bool} :
    compile source preferred preferEpoch = .ok format ↔
      ∃ epoch patterns layouts preference,
        gather source none [] (listed source) = .ok (epoch, patterns) ∧
          ¬(patterns = [] ∧ epoch = none) ∧ expandAll patterns = .ok layouts ∧
            preferenceOf layouts epoch (preferredText (preferred.getD "")) = .ok preference ∧
              format = settled source layouts epoch preferEpoch preference := by
  constructor
  · intro compiled
    obtain ⟨⟨epoch, patterns⟩, gathered, compiled⟩ := Outcome.bind_eq_ok.mp compiled
    dsimp only at compiled
    split at compiled
    next => cases compiled
    next filled =>
      obtain ⟨layouts, expanded, compiled⟩ := Outcome.bind_eq_ok.mp compiled
      obtain ⟨preference, stated, compiled⟩ := Outcome.bind_eq_ok.mp compiled
      refine ⟨epoch, patterns, layouts, preference, gathered, by simpa using filled, expanded,
        stated, ?_⟩
      cases preference <;> cases compiled <;> rfl
  · rintro ⟨epoch, patterns, layouts, preference, gathered, filled, expanded, stated, rfl⟩
    have visible : (patterns.isEmpty && epoch.isNone) = false := by
      simpa [← Option.ne_none_iff_isSome] using filled
    rw [preferredText] at stated
    simp only [compile, gathered, visible, expanded, stated, Outcome.ok_bind]
    cases preference <;> rfl

theorem compile_ok {preferred : Option String} {preferEpoch : Bool}
    (compiled : compile source preferred preferEpoch = .ok format) :
    ∃ epoch patterns layouts preference,
      gather source none [] (listed source) = .ok (epoch, patterns) ∧
        expandAll patterns = .ok layouts ∧
          preferenceOf layouts epoch (preferredText (preferred.getD "")) = .ok preference ∧
            format = settled source layouts epoch preferEpoch preference := by
  obtain ⟨epoch, patterns, layouts, preference, gathered, -, rest⟩ := compile_eq_ok.mp compiled
  exact ⟨epoch, patterns, layouts, preference, gathered, rest⟩

/-- The preferences that a text can state. -/
inductive States (layouts : List Date.Layout) (epoch : Option EpochUnit) (text : String) :
    Preference → Prop where
  | nothing (blank : text = "") : States layouts epoch text .nothing
  | epoch (unit : EpochUnit) (marks : text = unit.marker) (counts : epoch.isSome) :
      States layouts epoch text .epoch
  | layout {first layout : Date.Layout} {others : List Date.Layout} (visible : text ≠ "")
      (unmarked : ∀ unit : EpochUnit, text ≠ unit.marker)
      (expanded : Date.expand (Date.patternOf text).toList = .ok (first :: others))
      (compiled : layout ∈ layouts) (same : layout.canonical = first.canonical) :
      States layouts epoch text (.layout layout)

theorem expand_ok {pattern : String} {layouts : List Date.Layout}
    (expanded : expand pattern = .ok layouts) : Date.expand pattern.toList = .ok layouts := by
  unfold expand at expanded
  split at expanded <;> cases expanded
  assumption

theorem preferenceOf_states {layouts : List Date.Layout} {epoch : Option EpochUnit}
    {text : String} {preference : Preference}
    (stated : preferenceOf layouts epoch text = .ok preference) :
    States layouts epoch text preference := by
  unfold preferenceOf at stated
  split at stated
  next blank =>
    cases stated
    exact .nothing (String.isEmpty_iff.mp blank)
  next visible =>
    split at stated
    next marks =>
      obtain ⟨unit, found⟩ := Option.isSome_iff_exists.mp marks
      split at stated
      next counts =>
        cases stated
        exact .epoch unit (EpochUnit.ofMarker?_eq_some.mp found) counts
      next => cases stated
    next unmarked =>
      obtain ⟨wanted, expanded, stated⟩ := Outcome.bind_eq_ok.mp stated
      split at stated
      next layout found =>
        cases stated
        have first := List.find?_some found
        have compiled := List.mem_of_find?_eq_some found
        cases wanted with
        | nil => cases first
        | cons wanted others =>
            have same : wanted.canonical = layout.canonical := by simpa using first
            have none := EpochUnit.ofMarker?_eq_none.mp (Option.not_isSome_iff_eq_none.mp unmarked)
            exact .layout (mt String.isEmpty_iff.mpr visible) none (expand_ok expanded) compiled
              same.symm
      next => cases stated

/-- The source lists the marker of a unit, and dates are written as numbers that count it. -/
structure Counts (format : DateFormat) (unit : EpochUnit) : Prop where
  listed : unit.marker ∈ listed format.source
  epoch : format.epoch = some unit
  numbers : ∀ moment, format.toJson moment = .ok (.int (unit.count moment))

/-- The first layout of a pattern is a layout of the format, and the one that texts have. -/
def WritesAs (format : DateFormat) (pattern : String) (preferEpoch : Bool) : Prop :=
  ∃ first others, Date.expand pattern.toList = .ok (first :: others) ∧
    ∃ layout ∈ format.layouts, layout.canonical = first.canonical ∧
      format.written = some layout ∧
        (¬(preferEpoch ∧ format.epoch.isSome) → format.marshalLayout = some layout)

section

variable {preferred : String} {preferEpoch : Bool}

theorem counts_of_marker (compiled : compile source (some preferred) preferEpoch = .ok format)
    {unit : EpochUnit} (marks : preferredText preferred = unit.marker) :
    ∃ own, format.Counts own ∧ (own = unit ↔ unit.marker ∈ listed source) := by
  obtain ⟨epoch, patterns, layouts, preference, gathered, -, stated, rfl⟩ := compile_ok compiled
  rw [Option.getD_some, marks] at stated
  cases preferenceOf_states stated with
  | nothing blank => cases unit <;> simp [EpochUnit.marker] at blank
  | layout _ unmarked => exact absurd rfl (unmarked unit)
  | epoch _ _ counts =>
      obtain ⟨own, rfl⟩ := Option.isSome_iff_exists.mp counts
      have inside : ∀ other : EpochUnit, own = other ↔ other.marker ∈ listed source := by
        simpa using gather_epoch gathered
      exact ⟨own, ⟨(inside own).mp rfl, rfl, toJson_of_unit rfl rfl⟩, inside unit⟩

theorem writesAs_of_pattern (compiled : compile source (some preferred) preferEpoch = .ok format)
    (visible : preferredText preferred ≠ "")
    (unmarked : ∀ unit : EpochUnit, preferredText preferred ≠ unit.marker) :
    format.WritesAs (Date.patternOf (preferredText preferred)) preferEpoch := by
  obtain ⟨epoch, patterns, layouts, preference, -, -, stated, rfl⟩ := compile_ok compiled
  rw [Option.getD_some] at stated
  cases preferenceOf_states stated with
  | nothing blank => exact absurd blank visible
  | epoch unit marks => exact absurd marks (unmarked unit)
  | @layout first layout others _ _ expanded inside same =>
      refine ⟨first, others, expanded, layout, inside, same, rfl, ?_⟩
      intro texts
      have nonempty : layouts.isEmpty = false :=
        List.isEmpty_eq_false_iff_exists_mem.mpr ⟨layout, inside⟩
      have plain : (preferEpoch && epoch.isSome) = false := by simpa [settled] using texts
      simp [marshalLayout, settled, nonempty, plain]

end

end DateFormat

/-- A preferred format that is stated decides how dates are written. A marker makes them numbers,
    which count the unit of the marker if and only if the format lists that marker; a format that
    lists the other one is not refused. A pattern makes them texts in its first layout, unless
    numbers are preferred and the format has a marker. -/
theorem preferred_format_is_honoured {source preferred : String} {preferEpoch : Bool}
    {format : DateFormat}
    (compiled : DateFormat.compile source (some preferred) preferEpoch = .ok format)
    (visible : DateFormat.preferredText preferred ≠ "") :
    (∀ unit : EpochUnit, DateFormat.preferredText preferred = unit.marker →
      ∃ own, format.Counts own ∧ (own = unit ↔ unit.marker ∈ DateFormat.listed source)) ∧
    ((∀ unit : EpochUnit, DateFormat.preferredText preferred ≠ unit.marker) →
      format.WritesAs (Date.patternOf (DateFormat.preferredText preferred)) preferEpoch) :=
  ⟨fun _ => DateFormat.counts_of_marker compiled,
    DateFormat.writesAs_of_pattern compiled visible⟩

namespace Sample

/-- The layout of `yyyy/MM/dd`. -/
def slashed : Date.Layout :=
  ⟨[.number .year true, .literal ['/'], .number .month true, .literal ['/'], .number .day true]⟩

/-- The layout of `yyyy-MM-dd`. -/
def dashed : Date.Layout :=
  ⟨[.number .year true, .literal ['-'], .number .month true, .literal ['-'], .number .day true]⟩

/-- A format whose second layout is preferred. -/
def slashes : DateFormat :=
  ⟨"yyyy-MM-dd||yyyy/MM/dd||epoch_second", [dashed, slashed], some .seconds, some slashed, false⟩

theorem slashes_compiled :
    DateFormat.compile "yyyy-MM-dd||yyyy/MM/dd||epoch_second" (some " yyyy/MM/dd ") false =
      .ok slashes :=
  Outcome.toOption_eq_some.mp (by decide +kernel)

/-- A format of seconds alone. -/
def seconds : DateFormat :=
  ⟨"epoch_second", [], some .seconds, none, true⟩

theorem seconds_compiled :
    DateFormat.compile "epoch_second" (some "epoch_second") false = .ok seconds :=
  rfl

end Sample

theorem sample_preferred_format_is_honoured :
    Sample.slashes.WritesAs (Date.patternOf (DateFormat.preferredText " yyyy/MM/dd ")) false ∧
      ∃ own, Sample.seconds.Counts own ∧
        (own = .seconds ↔ "epoch_second" ∈ DateFormat.listed "epoch_second") := by
  constructor
  · refine (preferred_format_is_honoured Sample.slashes_compiled (by decide)).2 ?_
    intro unit
    cases unit <;> decide
  · exact (preferred_format_is_honoured Sample.seconds_compiled (by decide)).1 .seconds rfl

/-- A format that lists seconds takes milliseconds as preferred, and goes on to write seconds. -/
theorem sample_other_unit_is_taken :
    ∃ format, DateFormat.compile "epoch_second" (some "epoch_millis") false = .ok format ∧
      "epoch_millis" ∉ DateFormat.listed "epoch_second" ∧
        format.toJson ⟨60, 0, 0⟩ = .ok (.int 60) ∧
          EpochUnit.count ⟨60, 0, 0⟩ .millis = 60000 :=
  ⟨Sample.seconds, rfl, by decide, rfl, rfl⟩

end StoreSchema
