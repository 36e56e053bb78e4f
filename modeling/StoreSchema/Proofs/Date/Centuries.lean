import StoreSchema.Proofs.Date.Precedence
import StoreSchema.Proofs.Date.Transposing

/-! # Years of two digits

A pattern that begins with an optional century expands to rows in pairs: one with the year in four
digits, and behind it the same one with two. The row with two digits reads its texts as they were
meant, but the row with four also takes a year of two digits, as a year of the first century, and
stands before it.
-/

namespace StoreSchema

namespace Date

/-! ## Parts that tell the year in other ways -/

namespace Parts

variable {parts : Parts} {value year : Int} {full century : Option Int}

/-- The same parts with another year, in full or as two digits. -/
def withYear (full century : Option Int) (parts : Parts) : Parts :=
  { parts with year := full, yearOfCentury := century }

theorem map_guarded (change : Parts → Parts) (low high : Int) (old : Option Int)
    (write : Option Int → Parts) :
    (do inRange low high value; let new ← agree old value; pure (write new)).map change =
      (do inRange low high value; let new ← agree old value; pure (change (write new))) := by
  cases inRange low high value with
  | error misread => rfl
  | ok done =>
      cases agree old value with
      | error misread => rfl
      | ok new => rfl

theorem set_withYear {part : NumberPart} (plain : part.plain) (other : part ≠ .year) :
    part.set value (parts.withYear full century) =
      (part.set value parts).map (withYear full century) := by
  cases part with
  | year => exact absurd rfl other
  | yearOfCentury | halfDayHour => cases plain
  | month =>
      exact (map_guarded (withYear full century) 1 12 parts.month fun month =>
        { parts with month }).symm
  | day =>
      exact (map_guarded (withYear full century) 1 31 parts.day fun day =>
        { parts with day }).symm
  | ordinal =>
      exact (map_guarded (withYear full century) 1 366 parts.ordinal fun ordinal =>
        { parts with ordinal }).symm
  | minute =>
      exact (map_guarded (withYear full century) 0 59 parts.minute fun minute =>
        { parts with minute }).symm
  | second =>
      exact (map_guarded (withYear full century) 0 60 parts.second fun second =>
        { parts with second }).symm
  | hour =>
      simp only [NumberPart.set, setHour, withYear]
      cases inRange 0 23 value with
      | error misread => rfl
      | ok done =>
          cases agree parts.halfDay (value / 12) with
          | error misread => rfl
          | ok half =>
              cases agree parts.halfDayHour (value % 12) with
              | error misread => rfl
              | ok hour => rfl

theorem setNanos_withYear : setNanos value (parts.withYear full century) =
    (setNanos value parts).map (withYear full century) :=
  (map_guarded (withYear full century) 0 999999999 parts.nanos fun nanos =>
    { parts with nanos }).symm

theorem setOffset_withYear : setOffset value (parts.withYear full century) =
    (setOffset value parts).map (withYear full century) := by
  simp only [setOffset, withYear]
  cases agree parts.offset value with
  | error misread => rfl
  | ok offset => rfl

end Parts

section Scanning

variable {parts : Parts} {full century : Option Int} {text : List Char}

theorem Item.scan_withYear {item : Item} {rest : List Item} (unambiguous : clear (item :: rest))
    (noYear : item.writes .year = false) :
    item.scan (parts.withYear full century) text =
      (item.scan parts text).map fun (after, left) => (after.withYear full century, left) := by
  cases item with
  | literal expected =>
      simp only [Item.scan]
      cases Scan.literal expected text <;> rfl
  | number part padded =>
      simp only [clear, Bool.and_eq_true] at unambiguous
      have other : part ≠ .year := by simpa [Item.writes] using noYear
      simp only [Item.scan]
      cases part.scan (Text.trimStart text) with
      | error misread => rfl
      | ok taken =>
          simp only [Outcome.ok_bind, Parts.set_withYear unambiguous.1.1 other]
          cases part.set taken.1 parts <;> rfl
  | fraction =>
      simp only [Item.scan]
      split
      next rest =>
        cases Scan.fraction rest with
        | error misread => rfl
        | ok taken =>
            simp only [Outcome.ok_bind, Parts.setNanos_withYear]
            cases parts.setNanos taken.1 <;> rfl
      next => rfl
  | offset =>
      simp only [Item.scan]
      cases Scan.offset (Text.trimStart text) with
      | error misread => rfl
      | ok taken =>
          simp only [Outcome.ok_bind, Parts.setOffset_withYear]
          cases parts.setOffset taken.1 <;> rfl
  | space | shortMonth | longMonth | shortWeekday | longWeekday | halfDay | pointed | bare =>
      cases unambiguous

theorem scanItems_withYear {items : List Item} (unambiguous : clear items)
    (noYear : writes items .year = false) :
    scanItems (parts.withYear full century) text items =
      (scanItems parts text items).map (Parts.withYear full century) := by
  induction items generalizing parts text with
  | nil =>
      simp only [scanItems]
      split <;> rfl
  | cons item rest ih =>
      obtain ⟨here, later⟩ : item.writes .year = false ∧ writes rest .year = false :=
        Bool.or_eq_false_iff.mp noYear
      rw [scanItems, scanItems, Item.scan_withYear unambiguous here]
      cases item.scan parts text with
      | error misread => rfl
      | ok taken => exact ih (clear_tail unambiguous) later

end Scanning

namespace Parts

variable {parts : Parts} {year : Int}

theorem fullYear_ofCentury (range : 1970 ≤ year ∧ year ≤ 2069) :
    (parts.withYear none (some (year % 100))).fullYear = .ok (some year) := by
  simp only [fullYear, withYear]
  congr 2
  split <;> omega

theorem calendarDay_ofCentury (parts : Parts) (range : 1970 ≤ year ∧ year ≤ 2069) :
    (parts.withYear none (some (year % 100))).calendarDay =
      (parts.withYear (some year) none).calendarDay := by
  rw [calendarDay, calendarDay, fullYear_ofCentury range]
  rfl

theorem filledDay_of_year (full : parts.fullYear = .ok (some year)) :
    parts.filledDay = orFill calendarDay
      (fun parts => fill (setDay 1) (fill (setMonth 1) parts)) calendarDay parts := by
  unfold filledDay
  by_cases missing : parts.calendarDay = .error .notEnough
  · rw [orFill_of_less missing, orFill_of_less missing]
    refine orFill_of_enough ?_
    simp only [fill_month, fill_day]
    exact calendarDay_enough full rfl rfl
  · rw [orFill_of_enough missing, orFill_of_enough missing]

theorem filledDay_ofCentury (range : 1970 ≤ year ∧ year ≤ 2069) :
    (parts.withYear none (some (year % 100))).filledDay =
      (parts.withYear (some year) none).filledDay := by
  have same := calendarDay_ofCentury parts range
  rw [filledDay_of_year (fullYear_ofCentury range), filledDay_of_year rfl]
  by_cases missing : (parts.withYear (some year) none).calendarDay = .error .notEnough
  · rw [orFill_of_less (same.trans missing), orFill_of_less missing]
    simp only [fill_month, fill_day]
    exact calendarDay_ofCentury { parts with
      month := some (parts.month.getD 1), day := some (parts.day.getD 1) } range
  · rw [orFill_of_enough (same ▸ missing), orFill_of_enough missing, same]

theorem filledTime_withYear {full century : Option Int} :
    (parts.withYear full century).filledTime = parts.filledTime := by
  have hour : (parts.withYear full century).fillHour = parts.fillHour.withYear full century := by
    simp only [fillHour, withYear]
    cases agree parts.halfDay 0 with
    | error misread => rfl
    | ok half =>
        simp only [fill]
        cases agree parts.halfDayHour 0 <;> rfl
  simp only [filledTime, orFill, fill_minute, hour]
  rfl

theorem toMoment_ofCentury (range : 1970 ≤ year ∧ year ≤ 2069) :
    (parts.withYear none (some (year % 100))).toMoment =
      (parts.withYear (some year) none).toMoment := by
  rw [toMoment, toMoment, filledDay_ofCentury range, filledTime_withYear, filledTime_withYear]
  rfl

end Parts

/-! ## Rows with a year in front -/

/-- The row with a year of four digits in front. -/
def Layout.fourDigits (rest : List Item) : Layout :=
  ⟨.number .year true :: rest⟩

/-- The row with a year of two digits in front. -/
def Layout.twoDigits (rest : List Item) : Layout :=
  ⟨.number .yearOfCentury true :: rest⟩

/-- What can stand behind a year, so that both rows can be read back. -/
structure Trailing (rest : List Item) : Prop where
  ends : stops rest
  unambiguous : clear rest
  ordered : Ordered (.number .year true :: rest)
  noYear : writes rest .year = false

section

variable {rest : List Item} {m : Moment}

theorem Trailing.clear_four (trailing : Trailing rest) : clear (.number .year true :: rest) := by
  simp only [clear, trailing.unambiguous]
  rfl

theorem scan_shortYear {n : Nat} (small : n < 100) {rest : List Char} (ends : Ends rest) :
    NumberPart.year.scan (Text.trimStart (numberChars true 2 n ++ rest)) =
      .ok ((n : Int), rest) := by
  have digits : ∀ c ∈ Text.padded 2 n, c.isDigit := fun _ inside =>
    Text.isDigit_of_mem_padded inside
  have length : (Text.padded 2 n).length = 2 := Text.length_padded (by omega) small
  have taken := Scan.number_append digits (List.ne_nil_of_length_pos (by omega))
    (length.trans_le (show 2 ≤ 4 by omega)) (.inr ends) (by omega)
  rw [Text.ofDigits_padded] at taken
  rw [numberChars, if_pos rfl]
  rw [Text.padded_two small] at digits taken ⊢
  have digit := digits _ List.mem_cons_self
  rw [List.cons_append] at taken ⊢
  rw [Text.trimStart_cons (Text.not_isBlank_of_isDigit digit), NumberPart.scan,
    Scan.year_of_digit digit, taken]

/-- The row with four digits also takes a year of two, and reads the rest behind it. -/
theorem scan_twoDigits_of_four (trailing : Trailing rest) (writable : m.Writable)
    (range : 1970 ≤ m.year ∧ m.year ≤ 2069) :
    ∃ back, (Layout.fourDigits rest).scan ((Layout.twoDigits rest).print m) = .ok back ∧
      Keeps (.number .year true :: rest) (m.inYear (m.year % 100)) back := by
  have same := Calendar.isLeap_ofCentury range
  have moved : (m.inYear (m.year % 100)).Writable := writable.inYear same (by omega)
  have valid := moved.valid
  have print := print_inYear same trailing.unambiguous trailing.noYear
  obtain ⟨weekday, shown⟩ := Moment.toLocal_inYear same
  obtain ⟨back, read, -, keeps⟩ := toMoment_told trailing.ordered moved
  generalize m.inYear (m.year % 100) = early at *
  have year : (NumberPart.year.value early.toLocal).2 = (m.year % 100).toNat := by
    rw [shown]
    rfl
  have told : NumberPart.year.set (m.year % 100).toNat {} =
      .ok (Parts.told early.toLocal early.offset [.number .year true]) := by
    rw [← year]
    exact @NumberPart.set_told early.toLocal early.offset [] .year rfl valid true
  have later := scanItems_print valid moved.offset moved.wholeMinutes trailing.unambiguous
    [.number .year true]
  have first := scan_shortYear (show (m.year % 100).toNat < 100 by omega)
    (ends_of_stops trailing.ends : Ends (rest.flatMap (Item.print m.toLocal m.offset)))
  refine ⟨back, ?_, keeps⟩
  have written : (Layout.twoDigits rest).print m =
      numberChars true 2 (m.year % 100).toNat ++
        rest.flatMap (Item.print m.toLocal m.offset) := rfl
  rw [print] at later
  rw [written, Layout.scan, Layout.fourDigits, scanItems, Item.scan, first, Outcome.ok_bind]
  simp only [told, Outcome.ok_bind, pure, Except.pure]
  rw [later]
  exact read

theorem told_behind_year (time : Moment.Local) (offset : Int) (rest : List Item) :
    Parts.told time offset (.number .year true :: rest) =
      (Parts.told time offset rest).withYear (some time.date.year.toNat) none := by
  simp [Parts.told, Parts.withYear, NumberPart.told, writes, Item.writes, NumberPart.value]

theorem scan_twoDigits (trailing : Trailing rest) (writable : m.Writable)
    (range : 1970 ≤ m.year ∧ m.year ≤ 2069) :
    ∃ back, (Layout.twoDigits rest).scan ((Layout.twoDigits rest).print m) = .ok back ∧
      Keeps (.number .year true :: rest) m back := by
  have valid := writable.valid
  obtain ⟨back, read, -, keeps⟩ := toMoment_told trailing.ordered writable
  have year : ((m.year % 100).toNat : Int) = m.year % 100 := by omega
  have whole : (m.toLocal.date.year.toNat : Int) = m.year :=
    Int.toNat_of_nonneg (show 0 ≤ m.year by omega)
  have told : NumberPart.yearOfCentury.set (m.year % 100).toNat {} =
      .ok (Parts.withYear none (some (m.year % 100)) {}) := by
    rw [NumberPart.set, Parts.setYearOfCentury, Parts.inRange_within (by omega), year]
    rfl
  have first : NumberPart.yearOfCentury.scan (Text.trimStart
      (numberChars true 2 (m.year % 100).toNat ++ rest.flatMap (Item.print m.toLocal m.offset))) =
        .ok ((m.year % 100).toNat, rest.flatMap (Item.print m.toLocal m.offset)) :=
    NumberPart.yearOfCentury.scan_print true valid (.inl rfl)
  have later := scanItems_print valid writable.offset writable.wholeMinutes trailing.unambiguous []
  have empty : Parts.told m.toLocal m.offset [] = {} := rfl
  refine ⟨back, ?_, keeps⟩
  have written : (Layout.twoDigits rest).print m =
      numberChars true 2 (m.year % 100).toNat ++
        rest.flatMap (Item.print m.toLocal m.offset) := rfl
  rw [empty, List.nil_append] at later
  rw [told_behind_year, whole, ← Parts.toMoment_ofCentury range] at read
  rw [written, Layout.scan, Layout.twoDigits, scanItems, Item.scan, first, Outcome.ok_bind]
  simp only [told, Outcome.ok_bind, pure, Except.pure]
  rw [scanItems_withYear trailing.unambiguous trailing.noYear, later]
  exact read

end

/-! ## Rows in pairs -/

/-- The rows with a year of four and of two digits in front. -/
def Layout.pair (rest : List Item) : List Layout :=
  [.fourDigits rest, .twoDigits rest]

/-- What stands behind the years of layouts that come in pairs. -/
def centuries? : List Layout → Option (List (List Item))
  | [] => some []
  | ⟨.number .year true :: rest⟩ :: ⟨.number .yearOfCentury true :: others⟩ :: more =>
    if rest = others then (centuries? more).map (rest :: ·) else none
  | _ => none

theorem centuries?_eq_some {layouts : List Layout} {rows : List (List Item)}
    (found : centuries? layouts = some rows) : layouts = rows.flatMap Layout.pair := by
  induction layouts using centuries?.induct generalizing rows with
  | case1 =>
      cases found
      rfl
  | case2 rest more ih =>
      simp only [centuries?, if_true, Option.map_eq_some_iff] at found
      obtain ⟨later, found, rfl⟩ := found
      rw [ih found]
      rfl
  | case3 rest others more different =>
      simp [centuries?, different] at found
  | case4 layouts empty unpaired =>
      unfold centuries? at found
      split at found
      next => exact absurd rfl empty
      next => exact absurd rfl (unpaired _ _ _)
      next => cases found

/-- Whether a row can stand behind a year. -/
def trails (rest : List Item) : Bool :=
  stops rest && clear rest && orderly (.number .year true :: rest) && !writes rest .year

theorem trailing_of_trails {rest : List Item} (yes : trails rest) : Trailing rest := by
  simp only [trails, Bool.and_eq_true, Bool.not_eq_true'] at yes
  obtain ⟨⟨⟨ends, unambiguous⟩, inOrder⟩, noYear⟩ := yes
  exact ⟨ends, unambiguous, ordered_of_orderly inOrder, noYear⟩

/-- Whether the layouts of one row refuse all that those of another one write. -/
def refuses (earlier later : List Item) : Bool :=
  (Layout.pair earlier).all fun layout =>
    (Layout.pair later).all fun written => apart layout.items written.items

theorem refuses_scan {earlier later : List Item} (refused : refuses earlier later)
    {layout written : Layout} (one : layout ∈ Layout.pair earlier)
    (other : written ∈ Layout.pair later) {m : Moment} (writable : m.Writable) (moment : Moment) :
    layout.scan (written.print m) ≠ .ok moment := by
  have come := List.all_eq_true.mp (List.all_eq_true.mp refused layout one) written other
  intro taken
  obtain ⟨final, scanned, -⟩ := Outcome.bind_eq_ok.mp taken
  exact scanItems_apart writable come {} final scanned

end Date

namespace DateFormat

open Date (Layout Item Keeps Component)

/-! ## Formats with an optional century -/

/-- What becomes of a moment that a format's row writes behind a year. With four digits the year is
    read as it was. With two digits it is read as a year of the first century, although the layout
    that wrote it would read it as it was. The rest is read as it was either way. -/
structure ReadsCentury (format : DateFormat) (rest : List Item) (m : Moment) : Prop where
  four : ∃ back, format.ofText (String.ofList ((Layout.fourDigits rest).print m)) = .ok back ∧
    Keeps (Layout.fourDigits rest).items m back
  two : ∃ back, format.ofText (String.ofList ((Layout.twoDigits rest).print m)) = .ok back ∧
    back.year = m.year % 100 ∧ ∀ component, component ≠ Component.year →
      component.shown back =
        if Date.shows (Layout.fourDigits rest).items component then component.shown m
        else component.initial
  alone : ∃ back, (Layout.twoDigits rest).scan ((Layout.twoDigits rest).print m) = .ok back ∧
    Keeps (Layout.fourDigits rest).items m back

/-- The formats with an optional century in front have their layouts in pairs, and no pair takes
    what a later one writes. -/
theorem named_centuries : Date.namedPatterns.all (fun entry =>
    !"[yy]yy".toList.isPrefixOf entry.2.toList ||
      Date.namedPattern? entry.1 == some entry.2 && (EpochUnit.ofMarker? entry.1).isNone &&
        listed entry.1 == [entry.1] &&
        (Date.layouts? entry.2.toList).any fun layouts =>
          !layouts.isEmpty && Layout.distinct [] layouts == layouts &&
            (Date.centuries? layouts).any fun rows =>
              rows.all Date.trails && rows.Pairwise (Date.refuses · ·)) := by
  decide +kernel

theorem compile_optional {name pattern : String} (named : (name, pattern) ∈ Date.namedPatterns)
    (optional : "[yy]yy".toList <+: pattern.toList) :
    ∃ format rows, compile name none false = .ok format ∧ rows ≠ [] ∧
      format.layouts = rows.flatMap Layout.pair ∧ (∀ rest ∈ rows, Date.Trailing rest) ∧
        rows.Pairwise (Date.refuses · ·) := by
  have entry := List.all_eq_true.mp named_centuries (name, pattern) named
  have first : "[yy]yy".toList.isPrefixOf pattern.toList := List.isPrefixOf_iff_prefix.mpr optional
  simp only [first, Bool.not_true, Bool.false_or, Bool.and_eq_true, beq_iff_eq,
    Option.isNone_iff_eq_none, Option.any_eq_true, Bool.not_eq_true', List.isEmpty_eq_false_iff,
    List.all_eq_true, decide_eq_true_eq] at entry
  obtain ⟨⟨⟨found, unmarked⟩, alone⟩, layouts, expands, ⟨nonempty, once⟩, rows, paired, trailing,
    apart⟩ := entry
  obtain ⟨epoch, gathered⟩ := gather_alone (.inl alone) unmarked
  rw [Date.patternOf, found, Option.getD_some] at gathered
  have expanded := Date.expand_layouts expands nonempty
  have pairs := Date.centuries?_eq_some paired
  obtain ⟨layout, others, rfl⟩ := List.exists_cons_of_ne_nil nonempty
  refine ⟨_, rows, compile_expanded gathered expanded once, ?_, pairs, ?_, apart⟩
  · rintro rfl
    cases pairs
  · exact fun rest inside => Date.trailing_of_trails (trailing rest inside)

section

variable {format : DateFormat} {rest : List Item} {before after : List (List Item)} {m : Moment}

theorem pairs_free (refused : ∀ earlier ∈ before, Date.refuses earlier rest) {written : Layout}
    (inside : written ∈ Layout.pair rest) (writable : m.Writable) (other : Moment) :
    ¬ Captures (written.print m) other (before.flatMap Layout.pair) := by
  intro captured
  obtain ⟨layout, among, taken⟩ := tryLayouts_ok (tryLayouts_eq_ok.mpr captured)
  obtain ⟨earlier, place, one⟩ := List.mem_flatMap.mp among
  exact Date.refuses_scan (refused earlier place) one inside writable other taken

theorem readsCentury (order : format.layouts = before.flatMap Layout.pair ++
      Layout.fourDigits rest :: Layout.twoDigits rest :: after.flatMap Layout.pair)
    (refused : ∀ earlier ∈ before, Date.refuses earlier rest) (trailing : Date.Trailing rest)
    (writable : m.Writable) (range : 1970 ≤ m.year ∧ m.year ≤ 2069) :
    format.ReadsCentury rest m := by
  have reads : ∀ {written : Layout} {back : Moment}, written ∈ Layout.pair rest →
      (Layout.fourDigits rest).scan (written.print m) = .ok back →
        format.ofText (String.ofList (written.print m)) = .ok back := by
    intro written back inside taken
    have captured := captures_of_read (pairs_free refused inside writable) taken
      (Layout.twoDigits rest :: after.flatMap Layout.pair)
    exact ofText_of_captures (order ▸ captured)
  refine ⟨?_, ?_, Date.scan_twoDigits trailing writable range⟩
  · obtain ⟨back, taken, -, keeps⟩ :=
      Date.Layout.scan_print trailing.clear_four trailing.ordered writable
    exact ⟨back, reads List.mem_cons_self taken, keeps⟩
  · obtain ⟨back, taken, keeps⟩ := Date.scan_twoDigits_of_four trailing writable range
    have same := Calendar.isLeap_ofCentury range
    obtain ⟨weekday, shown⟩ := Moment.toLocal_inYear same
    refine ⟨back, reads (List.mem_cons_of_mem _ List.mem_cons_self) taken, ?_, ?_⟩
    · have year : back.year = (m.inYear (m.year % 100)).year := keeps .year
      rw [year, Moment.year, shown]
    · intro component other
      rw [keeps component, Component.shown_inYear same other]
      rfl

end

end DateFormat

open Date (Layout)

/-- A format whose pattern begins with an optional century reads back the year of its four-digit
    layouts, but that of its two-digit layouts only up to the century: the four-digit layout stands
    before the two-digit one and takes its texts. -/
theorem optional_century_reads_first_century {name pattern : String}
    (named : (name, pattern) ∈ Date.namedPatterns)
    (optional : "[yy]yy".toList <+: pattern.toList) :
    ∃ format rows, DateFormat.compile name none false = .ok format ∧ rows ≠ [] ∧
      format.layouts = rows.flatMap Layout.pair ∧
        ∀ rest ∈ rows, ∀ m : Moment, m.Writable → 1970 ≤ m.year ∧ m.year ≤ 2069 →
          format.ReadsCentury rest m := by
  obtain ⟨format, rows, compiled, nonempty, pairs, trailing, refuse⟩ :=
    DateFormat.compile_optional named optional
  refine ⟨format, rows, compiled, nonempty, pairs, ?_⟩
  intro rest inside m writable range
  obtain ⟨before, after, rfl⟩ := List.append_of_mem inside
  have order : format.layouts = before.flatMap Layout.pair ++
      Layout.fourDigits rest :: Layout.twoDigits rest :: after.flatMap Layout.pair := by
    rw [pairs, List.flatMap_append, List.flatMap_cons]
    rfl
  refine DateFormat.readsCentury order ?_ (trailing rest inside) writable range
  intro earlier place
  exact (List.pairwise_append.mp refuse).2.2 earlier place rest List.mem_cons_self

theorem sample_optional_century_reads_first_century :
    ∃ format rest, DateFormat.compile "date_optional_time" none false = .ok format ∧
      Layout.twoDigits rest ∈ format.layouts ∧ format.ReadsCentury rest Sample.leapSecond := by
  have named : ("date_optional_time", "[yy]yy-M-d['T'HH:m:s.999999999Z]") ∈ Date.namedPatterns := by
    decide
  have range : 1970 ≤ Sample.leapSecond.year ∧ Sample.leapSecond.year ≤ 2069 := by
    decide +kernel
  obtain ⟨format, rows, compiled, nonempty, pairs, reads⟩ :=
    optional_century_reads_first_century named (by decide)
  obtain ⟨rest, others, rfl⟩ := List.exists_cons_of_ne_nil nonempty
  refine ⟨format, rest, compiled, ?_, reads rest List.mem_cons_self _ Sample.leapSecond_writable
    range⟩
  rw [pairs, List.flatMap_cons]
  simp [Layout.pair]

namespace Sample

/-- The row of `-M-d`. -/
def monthAndDay : List Date.Item :=
  [.literal ['-'], .number .month false, .literal ['-'], .number .day false]

/-- The format `date`. -/
def optionalCentury : DateFormat :=
  ⟨"date", Layout.pair monthAndDay, none, some (.fourDigits monthAndDay), false⟩

theorem optionalCentury_compiled :
    DateFormat.compile "date" none false = .ok optionalCentury := by
  have gathered : DateFormat.gather "date" none [] (DateFormat.listed "date") =
      .ok (none, ["[yy]yy-M-d"]) := Outcome.toOption_eq_some.mp (by decide +kernel)
  have expands : Date.layouts? "[yy]yy-M-d".toList = some (Layout.pair monthAndDay) := by
    decide +kernel
  have expanded := Date.expand_layouts expands (List.cons_ne_nil _ _)
  exact DateFormat.compile_expanded gathered expanded (by decide +kernel)

/-- The second day of 1970. -/
def secondDay : Moment := ⟨86400, 0, 0⟩

/-- The second day of the year 70. -/
def secondDayOfSeventy : Moment := ⟨-59958057600, 0, 0⟩

end Sample

/-- The second day of 1970, with two digits, is read as a day of the year 70. -/
theorem sample_year_seventy :
    DateFormat.compile "date" none false = .ok Sample.optionalCentury ∧
      Layout.twoDigits Sample.monthAndDay ∈ Sample.optionalCentury.layouts ∧
        Sample.secondDay.Writable ∧ Sample.secondDay.year = 1970 ∧
          (Layout.twoDigits Sample.monthAndDay).print Sample.secondDay = "70-1-2".toList ∧
            Sample.optionalCentury.ofText "70-1-2" = .ok Sample.secondDayOfSeventy ∧
              Sample.secondDayOfSeventy.year = 70 := by
  refine ⟨Sample.optionalCentury_compiled, by decide, ?_, by decide +kernel, by decide +kernel, ?_,
    by decide +kernel⟩
  · constructor <;> decide
  · with_unfolding_all rfl

end StoreSchema
