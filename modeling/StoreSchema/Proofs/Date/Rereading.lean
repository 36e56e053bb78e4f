import StoreSchema.Leaf.Date
import StoreSchema.Proofs.Date.Compiling
import StoreSchema.Proofs.Date.Gaps
import StoreSchema.Proofs.Date.Quoting

/-! # Reading dates back

Every named format reads back what it writes. What it read shows what the layout shows of the
moment, so that it is written the same, and is the moment itself where the layout shows everything.
-/

namespace StoreSchema

namespace Calendar

theorem day_unique {left right : Int} (known : hasYear (date left).year)
    (year : (date left).year = (date right).year) (month : (date left).month = (date right).month)
    (day : (date left).day = (date right).day) : left = right := by
  have first := (shown left).ofDate known
  rw [year, month, day] at first
  rw [year] at known
  exact Option.some.inj (first.symm.trans ((shown right).ofDate known))

end Calendar

namespace Date

variable {items : List Item} {m back : Moment}

/-! ## Moments by their components -/

theorem date_eq (writable : m.Writable)
    (year : m.toLocal.date.year = back.toLocal.date.year)
    (month : m.toLocal.date.month = back.toLocal.date.month)
    (day : m.toLocal.date.day = back.toLocal.date.day) :
    (m.seconds + m.offset) / Moment.secondsPerDay =
      (back.seconds + back.offset) / Moment.secondsPerDay := by
  exact Calendar.day_unique (Calendar.hasYear_of_range writable.year) year month day

theorem moment_eq (writable : m.Writable) (again : back.Writable)
    (same : ∀ component : Component, component.shown back = component.shown m) : back = m := by
  have day := date_eq again (same .year) (Int.ofNat_inj.mp (same .month))
    (Int.ofNat_inj.mp (same .day))
  have hour := same .hour
  have minute := same .minute
  have second := same .second
  have nanos := same .nanos
  have offset := same .offset
  have leap := writable.leap
  have backLeap := again.leap
  have bound := writable.nanos
  have backBound := again.nanos
  simp only [Component.shown, Moment.toLocal, Moment.secondsPerDay, Moment.nanosPerSecond]
    at hour minute second nanos offset day
  obtain ⟨seconds, fraction, east⟩ := m
  obtain ⟨backSeconds, backFraction, backEast⟩ := back
  simp only [Moment.mk.injEq] at *
  subst offset
  have fractions : backFraction = fraction := by omega
  subst fractions
  exact ⟨by omega, rfl, rfl⟩

/-! ## Writing what was read -/

theorem Keeps.shown (keeps : Keeps items m back) (component : Component)
    (told : shows items component) : component.shown back = component.shown m := by
  rw [keeps component, if_pos told]

theorem Keeps.value (keeps : Keeps items m back) (ordered : Ordered items) (again : back.Writable)
    {part : NumberPart} (plain : part.plain) (written : writes items part) :
    part.value back.toLocal = part.value m.toLocal := by
  cases part with
  | yearOfCentury | halfDayHour => cases plain
  | year =>
      have year : back.toLocal.date.year = m.toLocal.date.year := keeps.shown .year written
      simp only [NumberPart.value, year]
  | month =>
      have month := keeps.shown .month (by simp [shows, written])
      simp only [NumberPart.value, Int.ofNat_inj.mp month]
  | day =>
      have day := keeps.shown .day (by simp [shows, written])
      simp only [NumberPart.value, Int.ofNat_inj.mp day]
  | ordinal =>
      have year := keeps.shown .year (ordered.ordinal written).1
      have month := keeps.shown .month (by simp [shows, written])
      have day := keeps.shown .day (by simp [shows, written])
      have days := date_eq again year (Int.ofNat_inj.mp month) (Int.ofNat_inj.mp day)
      simp only [NumberPart.value, Moment.toLocal, days]
  | hour =>
      have hour := keeps.shown .hour written
      simp only [NumberPart.value, Int.ofNat_inj.mp hour]
  | minute =>
      have minute := keeps.shown .minute written
      simp only [NumberPart.value, Int.ofNat_inj.mp minute]
  | second =>
      have second := keeps.shown .second written
      simp only [NumberPart.value, Int.ofNat_inj.mp second]

theorem Keeps.print (keeps : Keeps items m back) (ordered : Ordered items) (again : back.Writable)
    {rest : List Item} (unambiguous : clear rest) (inside : rest ⊆ items) :
    rest.flatMap (Item.print back.toLocal back.offset) =
      rest.flatMap (Item.print m.toLocal m.offset) := by
  induction rest with
  | nil => rfl
  | cons item later ih =>
      have here : item ∈ items := inside List.mem_cons_self
      have same : item.print back.toLocal back.offset = item.print m.toLocal m.offset := by
        cases item with
        | literal text => rfl
        | number part padded =>
            simp only [clear, Bool.and_eq_true] at unambiguous
            have written : writes items part :=
              List.any_eq_true.mpr ⟨_, here, by simp [Item.writes]⟩
            have value := keeps.value ordered again unambiguous.1.1 written
            simp only [Item.print, value]
        | fraction =>
            have nanos := keeps.shown .nanos (List.contains_iff_mem.mpr here)
            simp only [Item.print, Int.ofNat_inj.mp nanos]
        | offset =>
            have offset : back.offset = m.offset :=
              keeps.shown .offset (List.contains_iff_mem.mpr here)
            simp only [Item.print, offset]
        | space | shortMonth | longMonth | shortWeekday | longWeekday | halfDay | pointed | bare =>
            cases unambiguous
      rw [List.flatMap_cons, List.flatMap_cons, same,
        ih (clear_tail unambiguous) fun _ mem => inside (List.mem_cons_of_mem _ mem)]

/-! ## Quotes -/

/-- Whether a literal stands in a string as it is. -/
def Item.quotable : Item → Bool
  | .literal text => text.all fun c => Json.escape c == [c]
  | _ => true

theorem fixed_verbatim (unambiguous : clear items) (quotable : items.all Item.quotable) :
    Json.Verbatim (Layout.fixed ⟨items⟩) := by
  induction items with
  | nil => simp [Layout.fixed, Json.Verbatim]
  | cons item rest ih =>
      rw [List.all_cons, Bool.and_eq_true] at quotable
      intro c inside
      rw [Layout.fixed, List.flatMap_cons, List.mem_append] at inside
      rcases inside with here | later
      · cases item with
        | literal text =>
            have each := List.all_eq_true.mp quotable.1 c here
            exact Json.escape_eq_iff.mp (by simpa using each)
        | space => cases unambiguous
        | number | shortMonth | longMonth | shortWeekday | longWeekday | halfDay | fraction
        | pointed | bare | offset => cases here
      · exact ih (clear_tail unambiguous) quotable.2 c later

end Date

namespace DateFormat

open Date (Layout Item Keeps)

/-- A format reads a moment back from what it writes, up to what its layout does not show. What was
    read is written the same, and is the moment itself where the layout shows everything. -/
def ReadsBack (format : DateFormat) (layout : Layout) (m : Moment) : Prop :=
  ∃ value back, format.toJson m = .ok value ∧ format.ofJson value = .ok back ∧
    Keeps layout.items m back ∧ format.toJson back = .ok value ∧
    ((∀ component, Date.shows layout.items component) → back = m)

/-- Whether a row can be read back. -/
def rereads (items : List Item) : Bool :=
  Date.clear items && Date.orderly items && items.all Item.quotable

theorem written_of_marshalLayout {format : DateFormat} {layout : Layout}
    (texts : format.marshalLayout = some layout) :
    format.prefersEpoch = false ∧ format.written = some layout := by
  unfold marshalLayout at texts
  split at texts
  next => cases texts
  next noNumber => exact ⟨Bool.eq_false_iff.mpr noNumber, texts⟩

theorem toText_layout {format : DateFormat} {layout : Layout} {m : Moment}
    (written : format.written = some layout) (writable : m.Writable) :
    format.toText m = .ok (String.ofList (layout.print m)) := by
  have year : hasYear m.year := by
    simp only [hasYear, Bool.and_eq_true, decide_eq_true_eq]
    exact writable.year
  simp only [toText, written, year, if_true]

theorem toJson_layout {format : DateFormat} {layout : Layout} {m : Moment}
    (texts : format.marshalLayout = some layout) (writable : m.Writable) :
    format.toJson m = .ok (.str (String.ofList (layout.print m))) := by
  obtain ⟨noNumber, written⟩ := written_of_marshalLayout texts
  rw [toJson, noNumber, toText_layout written writable]
  rfl

theorem readsBack {format : DateFormat} {items : List Item} {others : List Layout}
    (layouts : format.layouts = ⟨items⟩ :: others) (written : format.marshalLayout = some ⟨items⟩)
    (sound : rereads items) {m : Moment} (writable : m.Writable) : format.ReadsBack ⟨items⟩ m := by
  simp only [rereads, Bool.and_eq_true] at sound
  obtain ⟨⟨unambiguous, inOrder⟩, quotable⟩ := sound
  have ordered := Date.ordered_of_orderly inOrder
  obtain ⟨back, read, again, keeps⟩ := Date.Layout.scan_print unambiguous ordered writable
  have unescaped : Json.escaped (String.ofList (Layout.print ⟨items⟩ m)) =
      String.ofList (Layout.print ⟨items⟩ m) := by
    refine Json.Verbatim.escaped_eq ?_
    rw [String.toList_ofList]
    exact Date.Layout.print_verbatim (Date.fixed_verbatim unambiguous quotable) m
  have quoted := unquoted_str (String.ofList (Layout.print ⟨items⟩ m))
  rw [unescaped, String.toList_ofList] at quoted
  refine ⟨_, back, toJson_layout written writable, ofRaw_first quoted layouts read, keeps, ?_, ?_⟩
  · have same : Layout.print ⟨items⟩ back = Layout.print ⟨items⟩ m :=
      keeps.print ordered again unambiguous fun _ inside => inside
    rw [toJson_layout written again, same]
  · intro all
    exact Date.moment_eq writable again fun component => keeps.shown component (all component)

theorem named_rows : Date.namedPatterns.all (fun entry =>
    Date.namedPattern? entry.1 == some entry.2 && (EpochUnit.ofMarker? entry.1).isNone &&
      (Date.mainItems? entry.2.toList).any rereads) := by
  decide +kernel

theorem compile_named {name pattern source : String} (named : (name, pattern) ∈ Date.namedPatterns)
    (alone : ListsAlone name source) :
    ∃ items others epoch, Date.mainItems? pattern.toList = some items ∧ rereads items ∧
      compile source none false = .ok ⟨source, ⟨items⟩ :: others, epoch, some ⟨items⟩, false⟩ := by
  have entry := List.all_eq_true.mp named_rows (name, pattern) named
  simp only [Bool.and_eq_true, beq_iff_eq, Option.isNone_iff_eq_none, Option.any_eq_true] at entry
  obtain ⟨⟨found, unmarked⟩, items, main, sound⟩ := entry
  obtain ⟨epoch, gathered⟩ := gather_alone alone unmarked
  have stands : Date.patternOf name = pattern := by
    rw [Date.patternOf, found, Option.getD_some]
  rw [stands] at gathered
  obtain ⟨others, compiled⟩ := compile_pattern gathered main
  exact ⟨items, others, epoch, main, sound, compiled⟩

/-- The row of `strict_date_optional_time`, which shows everything. -/
def strictItems : List Item :=
  [.number .year true, .literal ['-'], .number .month true, .literal ['-'], .number .day true,
    .literal ['T'], .number .hour true, .literal [':'], .number .minute true, .literal [':'],
    .number .second true, .fraction, .offset]

theorem strictItems_main :
    Date.mainItems? "yyyy-MM-dd['T'HH:mm:ss.999999999Z]".toList = some strictItems := by
  decide +kernel

theorem strictItems_shows (component : Date.Component) : Date.shows strictItems component := by
  cases component <;> rfl

theorem source_alone {type : Leaf.DateType} (texts : type.prefersEpoch = false) :
    ∃ name, (name, "yyyy-MM-dd['T'HH:mm:ss.999999999Z]") ∈ Date.namedPatterns ∧
      ListsAlone name type.source := by
  cases type with
  | date =>
      exact ⟨"strict_date_optional_time", by decide,
        .inr ⟨"epoch_millis", rfl, .inl rfl⟩⟩
  | dateNanos =>
      exact ⟨"strict_date_optional_time_nanos", by decide,
        .inr ⟨"epoch_millis", rfl, .inl rfl⟩⟩
  | epochMillis | epochSecond => cases texts

end DateFormat

/-- Named formats read back what they write, and the date types that are written as texts read back
    the moment itself. -/
theorem named_formats_read_back :
    (∀ {name pattern source : String}, (name, pattern) ∈ Date.namedPatterns →
      DateFormat.ListsAlone name source →
        ∃ format layout, DateFormat.compile source none false = .ok format ∧
          format.marshalLayout = some layout ∧
          ∀ m : Moment, m.Writable → format.ReadsBack layout m) ∧
    ∀ {type : Leaf.DateType}, type.prefersEpoch = false →
      ∃ format layout, type.format = .ok format ∧ format.marshalLayout = some layout ∧
        (∀ component, Date.shows layout.items component) ∧
        ∀ m : Moment, m.Writable → format.ReadsBack layout m := by
  constructor
  · intro name pattern source named alone
    obtain ⟨items, others, epoch, -, sound, compiled⟩ := DateFormat.compile_named named alone
    exact ⟨_, ⟨items⟩, compiled, rfl, fun m writable => DateFormat.readsBack rfl rfl sound writable⟩
  · intro type texts
    obtain ⟨name, named, alone⟩ := DateFormat.source_alone texts
    obtain ⟨items, others, epoch, main, sound, compiled⟩ := DateFormat.compile_named named alone
    cases DateFormat.strictItems_main.symm.trans main
    have format : type.format = DateFormat.compile type.source none false := by
      rw [Leaf.DateType.format, texts]
    exact ⟨_, _, format.trans compiled, rfl, DateFormat.strictItems_shows,
      fun m writable => DateFormat.readsBack rfl rfl sound writable⟩

namespace Sample

/-- A leap second at the end of 2016, told an hour east. -/
def leapSecond : Moment := ⟨1483228799, 1500000000, 3600⟩

theorem leapSecond_writable : leapSecond.Writable := by
  constructor <;> decide

end Sample

theorem sample_named_formats_read_back :
    (∃ format layout, DateFormat.compile "basic_t_time || epoch_second" none false = .ok format ∧
      format.marshalLayout = some layout ∧ format.ReadsBack layout Sample.leapSecond) ∧
    ∃ format layout, Leaf.DateType.dateNanos.format = .ok format ∧
      format.marshalLayout = some layout ∧ format.ReadsBack layout Sample.leapSecond := by
  constructor
  · have alone : DateFormat.ListsAlone "basic_t_time" "basic_t_time || epoch_second" :=
      .inr ⟨"epoch_second", rfl, .inl (by decide +kernel)⟩
    have named : ("basic_t_time", "'T'HHmmss.999999999Z") ∈ Date.namedPatterns := by decide
    obtain ⟨format, layout, compiled, written, reads⟩ := named_formats_read_back.1 named alone
    exact ⟨format, layout, compiled, written, reads _ Sample.leapSecond_writable⟩
  · have texts : Leaf.DateType.dateNanos.prefersEpoch = false := rfl
    obtain ⟨format, layout, compiled, written, -, reads⟩ := named_formats_read_back.2 texts
    exact ⟨format, layout, compiled, written, reads _ Sample.leapSecond_writable⟩

end StoreSchema
