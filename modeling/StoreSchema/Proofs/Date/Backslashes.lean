import StoreSchema.Proofs.Date.Precedence
import StoreSchema.Proofs.Date.Quoting

/-! # Strings that formats read

A string reaches the layouts of a format in its escaped form. No item takes a backslash unless it
holds one, so that strings with escapes are lost on most formats. Strings without escapes are read as
they are.
-/

namespace StoreSchema

namespace Date

/-! ## Backslashes stay -/

/-- What was taken off the front of a text has no backslash. -/
def Passes (text rest : List Char) : Prop :=
  ∃ taken, text = taken ++ rest ∧ '\\' ∉ taken

section

variable {text middle rest : List Char}

theorem Passes.refl (text : List Char) : Passes text text :=
  ⟨[], rfl, List.not_mem_nil⟩

theorem Passes.trans (first : Passes text middle) (second : Passes middle rest) :
    Passes text rest := by
  obtain ⟨front, rfl, free⟩ := first
  obtain ⟨more, rfl, alsoFree⟩ := second
  exact ⟨front ++ more, by simp, by simp [free, alsoFree]⟩

theorem Passes.cons {c : Char} (other : c ≠ '\\') (passes : Passes text rest) :
    Passes (c :: text) rest := by
  obtain ⟨taken, rfl, free⟩ := passes
  exact ⟨c :: taken, rfl, by simp [free, Ne.symm other]⟩

theorem Passes.mem (passes : Passes text rest) (inside : '\\' ∈ text) : '\\' ∈ rest := by
  obtain ⟨taken, rfl, free⟩ := passes
  exact (List.mem_append.mp inside).resolve_left free

theorem passes_drop {count : Nat} (free : '\\' ∉ text.take count) :
    Passes text (text.drop count) :=
  ⟨text.take count, (List.take_append_drop count text).symm, free⟩

theorem passes_dropWhile {p : Char → Bool} (stops : p '\\' = false) :
    Passes text (text.dropWhile p) := by
  refine ⟨text.takeWhile p, List.takeWhile_append_dropWhile.symm, fun inside => ?_⟩
  have holds := List.mem_takeWhile_imp inside
  rw [stops] at holds
  cases holds

theorem passes_trimStart : Passes text (Text.trimStart text) :=
  passes_dropWhile (by decide)

theorem backslash_not_mem_digits {digits : List Char} (all : digits.all Char.isDigit) :
    '\\' ∉ digits := by
  intro inside
  have digit := List.all_eq_true.mp all _ inside
  cases digit

/-! ## Numbers -/

theorem Scan.number_passes {most : Option Nat} {value : Int}
    (ok : Scan.number most text = .ok (value, rest)) : Passes text rest := by
  have passes : ∀ digits : List Char, digits <+: text → digits.all Char.isDigit →
      (if text.isEmpty then .error .tooShort
        else if digits.isEmpty then .error .invalid
        else if Number.greatestInt < Text.ofDigits digits then .error .outOfRange
        else .ok ((Text.ofDigits digits : Int), text.drop digits.length)) =
          (.ok (value, rest) : Except Misread (Int × List Char)) → Passes text rest := by
    intro digits front all ok
    have free : '\\' ∉ text.take digits.length := by
      rw [← List.prefix_iff_eq_take.mp front]
      exact backslash_not_mem_digits all
    split_ifs at ok
    cases ok
    exact passes_drop free
  cases most with
  | none => exact passes _ (List.takeWhile_prefix _) List.all_takeWhile ok
  | some most =>
      exact passes _ ((List.takeWhile_prefix _).trans (List.take_prefix _ _)) List.all_takeWhile ok

theorem NumberPart.scan_passes {part : NumberPart} {value : Int}
    (ok : part.scan text = .ok (value, rest)) : Passes text rest := by
  cases part with
  | year =>
      rw [NumberPart.scan, Scan.year.eq_def] at ok
      split at ok
      next =>
        obtain ⟨⟨number, left⟩, taken, ok⟩ := Outcome.bind_eq_ok.mp ok
        cases ok
        exact (Scan.number_passes taken).cons (by decide)
      next => exact (Scan.number_passes ok).cons (by decide)
      next => exact Scan.number_passes ok
  | yearOfCentury | month | day | ordinal | hour | halfDayHour | minute | second =>
      rw [NumberPart.scan] at ok
      · exact Scan.number_passes ok
      · exact NumberPart.noConfusion

theorem Scan.fixedNumber_passes {count : Nat} {value : Int}
    (ok : Scan.fixedNumber count text = .ok (value, rest)) : Passes text rest := by
  obtain ⟨digits, rfl⟩ := Scan.fixedNumber_ok ok
  exact passes_drop (backslash_not_mem_digits digits)

theorem Scan.fixedFraction_passes {precision : Precision} {value : Int}
    (ok : Scan.fixedFraction precision text = .ok (value, rest)) : Passes text rest := by
  obtain ⟨digits, rfl⟩ := Scan.fixedFraction_ok ok
  exact passes_drop (backslash_not_mem_digits digits)

theorem Scan.fraction_passes {value : Int} (ok : Scan.fraction text = .ok (value, rest)) :
    Passes text rest := by
  obtain ⟨⟨number, left⟩, taken, ok⟩ := Outcome.bind_eq_ok.mp ok
  cases ok
  exact (Scan.number_passes taken).trans (passes_dropWhile (by decide))

/-! ## Names -/

/-- Whether letters are no backslash in either case. -/
def lettered (letters : List Char) : Bool :=
  letters.all fun c => c.toLower != '\\'

theorem lettered_of_subset {letters others : List Char} (inside : letters ⊆ others)
    (all : lettered others) : lettered letters :=
  List.all_eq_true.mpr fun c member => List.all_eq_true.mp all c (inside member)

theorem backslash_not_mem_letters {letters : List Char} (same : Scan.sameLetters text letters)
    (all : lettered letters) : '\\' ∉ text := by
  intro inside
  have lower : '\\' ∈ text.map Char.toLower := List.mem_map.mpr ⟨'\\', inside, rfl⟩
  rw [eq_of_beq same] at lower
  obtain ⟨c, letter, mark⟩ := List.mem_map.mp lower
  have other := List.all_eq_true.mp all c letter
  simp [mark] at other

theorem months_lettered : ∀ name ∈ monthNames, lettered name.toList := by
  decide

theorem weekdays_lettered : ∀ name ∈ weekdayNames, lettered name.toList := by
  decide

section

variable {names : List String} {index : Nat}

theorem Scan.shortName_passes (letters : ∀ name ∈ names, lettered name.toList)
    (ok : Scan.shortName names text = .ok (index, rest)) : Passes text rest := by
  obtain ⟨-, -, ok⟩ := Outcome.bind_eq_ok.mp ok
  split at ok
  next found =>
    cases ok
    have begins := congrArg Option.isSome found
    rw [List.findIdx?_isSome, Option.isSome_some, List.any_eq_true] at begins
    obtain ⟨name, inside, same⟩ := begins
    have front : lettered (name.toList.take 3) :=
      lettered_of_subset (List.take_subset 3 name.toList) (letters name inside)
    have again : Scan.sameLetters (text.take 3) (name.toList.take 3) :=
      beq_iff_eq.mpr (eq_of_beq same).symm
    exact passes_drop (backslash_not_mem_letters again front)
  next => cases ok

theorem Scan.longName_passes (letters : ∀ name ∈ names, lettered name.toList)
    (ok : Scan.longName names text = .ok (index, rest)) : Passes text rest := by
  obtain ⟨⟨place, left⟩, short, ok⟩ := Outcome.bind_eq_ok.mp ok
  refine (Scan.shortName_passes letters short).trans ?_
  dsimp only at ok
  split at ok
  next same =>
    cases ok
    refine passes_drop (backslash_not_mem_letters same ?_)
    refine List.all_eq_true.mpr fun c member => ?_
    obtain ⟨name, inside, here⟩ := mem_of_mem_nameAt (List.mem_of_mem_drop member)
    exact List.all_eq_true.mp (letters name inside) c here
  next =>
    cases ok
    exact .refl _

end

theorem Scan.halfDay_passes {value : Int} (ok : Scan.halfDay text = .ok (value, rest)) :
    Passes text rest := by
  obtain ⟨-, -, ok⟩ := Outcome.bind_eq_ok.mp ok
  split at ok
  next morning =>
    cases ok
    exact passes_drop (backslash_not_mem_letters morning (by decide))
  next =>
    split at ok
    next afternoon =>
      cases ok
      exact passes_drop (backslash_not_mem_letters afternoon (by decide))
    next => cases ok

/-! ## Offsets -/

theorem Scan.sign_passes {negative : Bool} (ok : Scan.sign text = .ok (negative, rest)) :
    Passes text rest := by
  rw [Scan.sign.eq_def] at ok
  split at ok <;> cases ok <;> exact (Passes.refl rest).cons (by decide)

theorem Scan.offsetMinutes_passes {value : Int}
    (ok : Scan.offsetMinutes text = .ok (value, rest)) : Passes text rest := by
  obtain ⟨-, -, ok⟩ := Outcome.bind_eq_ok.mp ok
  split at ok
  next tens ones left _ =>
    split at ok
    next digits =>
      split at ok
      next => cases ok
      next =>
        cases ok
        have free : '\\' ∉ [tens, ones] :=
          backslash_not_mem_digits (by simpa using digits)
        exact ⟨[tens, ones], rfl, free⟩
    next => cases ok
  next => cases ok

theorem Scan.offset_passes {value : Int} (ok : Scan.offset text = .ok (value, rest)) :
    Passes text rest := by
  rw [Scan.offset.eq_def] at ok
  split at ok
  next =>
    cases ok
    exact (Passes.refl rest).cons (by decide)
  next =>
    cases ok
    exact (Passes.refl rest).cons (by decide)
  next =>
    obtain ⟨⟨negative, afterSign⟩, signed, ok⟩ := Outcome.bind_eq_ok.mp ok
    obtain ⟨⟨hours, afterHours⟩, fixed, ok⟩ := Outcome.bind_eq_ok.mp ok
    obtain ⟨⟨minutes, left⟩, last, ok⟩ := Outcome.bind_eq_ok.mp ok
    cases ok
    exact (Scan.sign_passes signed).trans <| (Scan.fixedNumber_passes fixed).trans <|
      (passes_dropWhile (by decide)).trans (Scan.offsetMinutes_passes last)

/-! ## Layouts -/

theorem Item.Took.passes {item : Item} (took : item.Took text rest) (free : '\\' ∉ item.fixed) :
    Passes text rest := by
  cases item with
  | literal expected => exact ⟨expected, took, free⟩
  | space =>
      cases took
      exact passes_trimStart
  | number =>
      obtain ⟨value, taken⟩ := took
      exact passes_trimStart.trans (NumberPart.scan_passes taken)
  | shortMonth =>
      obtain ⟨index, taken⟩ := took
      exact Scan.shortName_passes months_lettered taken
  | longMonth =>
      obtain ⟨index, taken⟩ := took
      exact Scan.longName_passes months_lettered taken
  | shortWeekday =>
      obtain ⟨index, taken⟩ := took
      exact Scan.shortName_passes weekdays_lettered taken
  | longWeekday =>
      obtain ⟨index, taken⟩ := took
      exact Scan.longName_passes weekdays_lettered taken
  | halfDay =>
      obtain ⟨value, taken⟩ := took
      exact Scan.halfDay_passes taken
  | fraction =>
      rcases took with ⟨others, value, rfl, taken⟩ | ⟨-, rfl⟩
      · exact (Scan.fraction_passes taken).cons (by decide)
      · exact .refl rest
  | pointed =>
      rcases took with ⟨others, value, rfl, taken⟩ | ⟨-, rfl⟩
      · exact (Scan.fixedFraction_passes taken).cons (by decide)
      · exact .refl rest
  | bare =>
      obtain ⟨value, taken⟩ := took
      exact Scan.fixedFraction_passes taken
  | offset =>
      obtain ⟨value, taken⟩ := took
      exact passes_trimStart.trans (Scan.offset_passes taken)

theorem scanItems_free {items : List Item} {parts final : Parts}
    (ok : scanItems parts text items = .ok final) (free : '\\' ∉ items.flatMap Item.fixed) :
    '\\' ∉ text := by
  induction items generalizing parts text with
  | nil =>
      rw [scanItems] at ok
      split at ok
      next none =>
        rw [List.isEmpty_iff.mp none]
        exact List.not_mem_nil
      next => cases ok
  | cons item rest ih =>
      rw [List.flatMap_cons, List.mem_append, not_or] at free
      obtain ⟨⟨after, left⟩, here, later⟩ := Outcome.bind_eq_ok.mp ok
      exact mt ((Item.took here).passes free.1).mem (ih later free.2)

/-- What a layout takes has no backslash if the layout holds none. -/
theorem Layout.scan_free {layout : Layout} {moment : Moment}
    (ok : layout.scan text = .ok moment) (free : '\\' ∉ layout.fixed) : '\\' ∉ text := by
  obtain ⟨parts, scanned, -⟩ := Outcome.bind_eq_ok.mp ok
  exact scanItems_free scanned free

end

end Date

namespace DateFormat

open Date (Layout)

variable {format : DateFormat} {layout : Layout} {text : String} {moment : Moment}

theorem exists_ofText (inside : layout ∈ format.layouts)
    (taken : layout.scan text.toList = .ok moment) :
    ∃ read, format.ofText text = .ok read := by
  simp only [ofText_eq_ok]
  obtain ⟨earlier, later, order⟩ := List.append_of_mem inside
  rw [order]
  by_cases free : ∀ other, ¬ Captures text.toList other earlier
  · exact ⟨moment, captures_of_read free taken later⟩
  · obtain ⟨read, captured⟩ := not_forall_not.mp free
    exact ⟨read, captured.append (layout :: later)⟩

theorem ofJson_verbatim (verbatim : Json.Verbatim text.toList) :
    format.ofJson (.str text) = format.ofText text := by
  rw [ofJson_str, verbatim.escaped_eq]

theorem verbatim_of_ofJson (free : ∀ layout ∈ format.layouts, '\\' ∉ layout.fixed)
    (read : format.ofJson (.str text) = .ok moment) : Json.Verbatim text.toList := by
  rw [ofJson_str] at read
  obtain ⟨layout, inside, taken⟩ := tryLayouts_ok (tryLayouts_eq_ok.mpr (ofText_eq_ok.mp read))
  exact Json.backslash_not_mem_escaped.mp (Date.Layout.scan_free taken (free layout inside))

end DateFormat

/-- A string is read as its text where nothing is escaped in it. That is so of what a layout writes
    if nothing is escaped in its literals; it is read then if the layout takes it. In general a
    string is read as its escaped form; and formats whose layouts hold no backslash read no string
    with escapes at all. -/
theorem verbatim_strings_reach_layouts (format : DateFormat) :
    (∀ text, Json.Verbatim text.toList → ∀ moment,
      format.ofJson (.str text) = .ok moment ↔ format.ofText text = .ok moment) ∧
    (∀ layout ∈ format.layouts, Json.Verbatim layout.fixed → ∀ m,
      Json.Verbatim (layout.print m) ∧ ∀ own, layout.scan (layout.print m) = .ok own →
        ∃ read, format.ofJson (.str (String.ofList (layout.print m))) = .ok read) ∧
    (∀ text, format.ofJson (.str text) = format.ofText (Json.escaped text)) ∧
    ((∀ layout ∈ format.layouts, '\\' ∉ layout.fixed) → ∀ text moment,
      format.ofJson (.str text) = .ok moment ↔
        Json.Verbatim text.toList ∧ format.ofText text = .ok moment) := by
  refine ⟨?_, ?_, DateFormat.ofJson_str format, ?_⟩
  · intro text verbatim moment
    rw [DateFormat.ofJson_verbatim verbatim]
  · intro layout inside fixed m
    have verbatim := Date.Layout.print_verbatim fixed m
    refine ⟨verbatim, fun own taken => ?_⟩
    rw [DateFormat.ofJson_verbatim (by rwa [String.toList_ofList])]
    exact DateFormat.exists_ofText inside (by rwa [String.toList_ofList])
  · intro free text moment
    constructor
    · intro read
      have verbatim := DateFormat.verbatim_of_ofJson free read
      exact ⟨verbatim, DateFormat.ofJson_verbatim verbatim ▸ read⟩
    · rintro ⟨verbatim, read⟩
      rw [DateFormat.ofJson_verbatim verbatim, read]

theorem sample_verbatim_strings_reach_layouts :
    Sample.slashes.ofJson (.str "2020/02/01") = .ok Sample.february ∧
      Sample.slashes.ofText "2020/\t02/01" = .ok Sample.february ∧
        Sample.slashes.ofJson (.str "2020/\t02/01") ≠ .ok Sample.february := by
  have read : Sample.slashes.ofText "2020/02/01" = .ok Sample.february := by
    with_unfolding_all rfl
  have tabbed : Sample.slashes.ofText "2020/\t02/01" = .ok Sample.february := by
    with_unfolding_all rfl
  obtain ⟨same, -, -, lost⟩ := verbatim_strings_reach_layouts Sample.slashes
  have free : ∀ layout ∈ Sample.slashes.layouts, '\\' ∉ layout.fixed := by decide
  refine ⟨(same "2020/02/01" (by decide) _).mpr read, tabbed, ?_⟩
  intro found
  have verbatim := ((lost free _ _).mp found).1
  exact absurd verbatim (by decide)

namespace Sample

/-- The layout of `yyyy\MM`. -/
def backslashed : Date.Layout :=
  ⟨[.number .year true, .literal ['\\'], .number .month true]⟩

/-- A format that writes a backslash. -/
def backslashes : DateFormat :=
  ⟨"yyyy\\MM", [backslashed], none, some backslashed, false⟩

theorem backslashes_compiled :
    DateFormat.compile "yyyy\\MM" none false = .ok backslashes :=
  Outcome.toOption_eq_some.mp (by decide +kernel)

end Sample

/-- A format that writes a backslash takes its own text, but not the string of it. -/
theorem sample_backslash_is_lost :
    DateFormat.compile "yyyy\\MM" none false = .ok Sample.backslashes ∧
      Sample.backslashes.toJson Sample.february = .ok (.str "2020\\02") ∧
        Sample.backslashes.ofText "2020\\02" = .ok Sample.february ∧
          ∀ moment, Sample.backslashes.ofJson (.str "2020\\02") ≠ .ok moment := by
  have refused : ∀ moment, Sample.backslashes.ofText "2020\\\\02" ≠ .ok moment := by
    intro moment
    have fails : (Sample.backslashes.ofText "2020\\\\02").toOption = none := by
      with_unfolding_all rfl
    intro read
    rw [read] at fails
    cases fails
  refine ⟨Sample.backslashes_compiled, ?_, ?_, ?_⟩
  · with_unfolding_all rfl
  · with_unfolding_all rfl
  · intro moment
    have escaped : Json.escaped "2020\\02" = "2020\\\\02" := by decide
    rw [DateFormat.ofJson_str, escaped]
    exact refused moment

end StoreSchema
