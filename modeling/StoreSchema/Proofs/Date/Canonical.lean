import Mathlib.Data.List.DropRight
import StoreSchema.Proofs.Date.Fronts
import StoreSchema.Proofs.Date.Literals
import StoreSchema.Proofs.Date.Reproducing

/-! # Canonical texts

The canonical text of a layout can be read in one way only, as a row of single signs and of items
without a text. So two layouts with one canonical text are cut into the same row. What patterns
build reads and writes as that row does, and the two take the place of each other. Only the misreads
may tell them apart, because a literal fails as a whole.
-/

namespace StoreSchema.Date

/-! ## The code of units -/

def numberParts : List NumberPart :=
  [.year, .yearOfCentury, .month, .day, .ordinal, .hour, .halfDayHour, .minute, .second]

/-- The items that hold no text. -/
def specifiers : List Item :=
  numberParts.map (.number · true) ++ numberParts.map (.number · false) ++
    [.shortMonth, .longMonth, .shortWeekday, .longWeekday, .halfDay, .fraction, .pointed .millis,
      .pointed .micros, .pointed .nanos, .bare .millis, .bare .micros, .bare .nanos, .offset]

/-- What items are cut into. -/
inductive Item.Single : Item → Prop where
  | sign (c : Char) : Single (.ofSign c)
  | specifier {item : Item} (listed : item ∈ specifiers) : Single item

theorem single_units (item : Item) : ∀ unit ∈ item.units, unit.Single := by
  have alone : ∀ other ∈ specifiers, ∀ unit ∈ [other], unit.Single := by
    intro other listed unit inside
    exact List.mem_singleton.mp inside ▸ .specifier listed
  cases item with
  | literal text | space text =>
      intro unit inside
      obtain ⟨c, -, rfl⟩ := List.mem_map.mp inside
      exact .sign c
  | number part padded => cases part <;> cases padded <;> exact alone _ (by decide)
  | pointed precision | bare precision => cases precision <;> exact alone _ (by decide)
  | shortMonth | longMonth | shortWeekday | longWeekday | halfDay | fraction | offset =>
      exact alone _ (by decide)

theorem canonical_ofSign (c : Char) :
    (Item.ofSign c).canonical = if c = '%' then ['%', '%'] else [c] := by
  unfold Item.ofSign
  split <;> exact List.flatMap_singleton _ _

theorem canonical_specifier :
    ∀ item ∈ specifiers, ∃ d more, item.canonical = '%' :: d :: more ∧ d ≠ '%' := by
  simp [specifiers, numberParts, Item.canonical, NumberPart.letter]

theorem prefix_specifier : ∀ one ∈ specifiers, ∀ other ∈ specifiers,
    one.canonical <+: other.canonical → one = other := by
  decide

theorem Item.Single.canonical_ne_nil {item : Item} (single : item.Single) :
    item.canonical ≠ [] := by
  cases single with
  | sign c =>
      rw [canonical_ofSign]
      split <;> exact List.cons_ne_nil _ _
  | specifier listed =>
      obtain ⟨d, more, same, -⟩ := canonical_specifier item listed
      rw [same]
      exact List.cons_ne_nil _ _

/-- No canonical text of a unit begins that of another one. -/
theorem Item.Single.eq_of_prefix {one other : Item} (first : one.Single) (second : other.Single)
    (begins : one.canonical <+: other.canonical) : one = other := by
  cases first with
  | sign c =>
      rw [canonical_ofSign] at begins
      cases second with
      | sign d =>
          rw [canonical_ofSign] at begins
          congr 1
          split at begins <;> split at begins <;> simp_all
      | specifier listed =>
          obtain ⟨e, more, same, other⟩ := canonical_specifier _ listed
          rw [same] at begins
          split at begins
          next => simp [Ne.symm other] at begins
          next plain => simp [plain] at begins
  | specifier listed =>
      obtain ⟨e, more, same, other⟩ := canonical_specifier one listed
      cases second with
      | sign d =>
          rw [same, canonical_ofSign] at begins
          split at begins
          next => simp [other] at begins
          next => simp at begins
      | specifier again => exact prefix_specifier one listed _ again begins

theorem eq_of_flatMap_canonical {left right : List Item} (first : ∀ unit ∈ left, unit.Single)
    (second : ∀ unit ∈ right, unit.Single)
    (same : left.flatMap Item.canonical = right.flatMap Item.canonical) : left = right := by
  induction left generalizing right with
  | nil =>
      cases right with
      | nil => rfl
      | cons other others =>
          have none := (List.append_eq_nil_iff.mp same.symm).1
          exact absurd none (second other List.mem_cons_self).canonical_ne_nil
  | cons one rest ih =>
      obtain ⟨here, later⟩ := List.forall_mem_cons.mp first
      cases right with
      | nil => exact absurd (List.append_eq_nil_iff.mp same).1 here.canonical_ne_nil
      | cons other others =>
          obtain ⟨there, latter⟩ := List.forall_mem_cons.mp second
          rw [List.flatMap_cons, List.flatMap_cons] at same
          have heads : one = other := by
            have fronts := List.prefix_or_prefix_of_prefix (List.prefix_append _ _)
              (same ▸ List.prefix_append other.canonical _)
            rcases fronts with begins | begins
            · exact here.eq_of_prefix there begins
            · exact (there.eq_of_prefix here begins).symm
          subst heads
          rw [ih later latter (List.append_cancel_left same)]

/-! ## Layouts in units -/

/-- The units of all items of a layout. -/
def Layout.units (layout : Layout) : List Item :=
  layout.items.flatMap Item.units

theorem canonical_units (item : Item) : item.units.flatMap Item.canonical = item.canonical := by
  cases item with
  | literal text | space text =>
      rw [Item.units, List.flatMap_map]
      simp only [canonical_ofSign]
      rfl
  | number | shortMonth | longMonth | shortWeekday | longWeekday | halfDay | fraction | pointed
  | bare | offset => exact List.flatMap_singleton _ _

theorem Layout.canonical_eq_units (layout : Layout) :
    layout.canonical = String.ofList (layout.units.flatMap Item.canonical) := by
  rw [Layout.canonical, Layout.units, List.flatMap_assoc]
  simp only [canonical_units]

theorem Layout.units_eq_of_canonical {one other : Layout} (same : one.canonical = other.canonical) :
    one.units = other.units := by
  have single : ∀ layout : Layout, ∀ unit ∈ layout.units, unit.Single := by
    intro layout unit inside
    obtain ⟨item, -, own⟩ := List.mem_flatMap.mp inside
    exact single_units item unit own
  rw [canonical_eq_units, canonical_eq_units, String.ofList_inj] at same
  exact eq_of_flatMap_canonical (single one) (single other) same

/-! ## Reading in units -/

section

variable {parts after : Parts} {text : List Char} {items : List Item}

theorem scanItems_cons {item : Item} :
    scanItems parts text (item :: items) = .ok after ↔
      ∃ next, item.scan parts text = .ok next ∧ scanItems next.1 next.2 items = .ok after := by
  rw [scanItems, Outcome.bind_eq_ok]

theorem scanItems_literal {expected : List Char} :
    scanItems parts text (.literal expected :: items) = .ok after ↔
      ∃ rest, text = expected ++ rest ∧ scanItems parts rest items = .ok after := by
  rw [scanItems, Item.scan, bind_assoc, Outcome.bind_eq_ok]
  refine exists_congr fun rest => and_congr_left fun _ => ⟨Scan.literal_ok, ?_⟩
  rintro rfl
  exact Scan.literal_append expected rest

theorem scanItems_signs {expected : List Char} (shown : ∀ c ∈ expected, Text.isBlank c = false) :
    scanItems parts text (expected.map Item.ofSign ++ items) = .ok after ↔
      ∃ rest, text = expected ++ rest ∧ scanItems parts rest items = .ok after := by
  induction expected generalizing text with
  | nil => simp
  | cons c others ih =>
      obtain ⟨here, later⟩ := List.forall_mem_cons.mp shown
      have sign : Item.ofSign c = .literal [c] := by simp [Item.ofSign, here]
      rw [List.map_cons, sign, List.cons_append, scanItems_literal]
      simp only [ih later]
      constructor
      · rintro ⟨_, rfl, rest, rfl, read⟩
        exact ⟨rest, rfl, read⟩
      · rintro ⟨rest, rfl, read⟩
        exact ⟨others ++ rest, rfl, rest, rfl, read⟩

theorem scanItems_blanks {blanks : List Char} (nonempty : blanks ≠ [])
    (all : ∀ c ∈ blanks, Text.isBlank c) :
    scanItems parts text (blanks.map Item.ofSign ++ items) =
      scanItems parts (Text.trimStart text) items := by
  induction blanks generalizing text with
  | nil => exact absurd rfl nonempty
  | cons c others ih =>
      obtain ⟨here, later⟩ := List.forall_mem_cons.mp all
      have sign : Item.ofSign c = .space [c] := by simp [Item.ofSign, here]
      have skipped : scanItems parts text (.space [c] :: (others.map Item.ofSign ++ items)) =
          scanItems parts (Text.trimStart text) (others.map Item.ofSign ++ items) := rfl
      rw [List.map_cons, sign, List.cons_append, skipped]
      cases others with
      | nil => rfl
      | cons d more =>
          rw [ih (List.cons_ne_nil d more) later, Text.trimStart, Text.trimStart,
            List.dropWhile_idempotent]

theorem scanItems_units (proper : ∀ item ∈ items, item.Proper) :
    scanItems parts text (items.flatMap Item.units) = .ok after ↔
      scanItems parts text items = .ok after := by
  induction items generalizing parts text with
  | nil => rfl
  | cons item rest ih =>
      obtain ⟨here, later⟩ := List.forall_mem_cons.mp proper
      rw [List.flatMap_cons]
      cases item with
      | literal expected =>
          rw [Item.units, scanItems_signs here, scanItems_literal]
          simp only [ih later]
      | space blanks =>
          rw [Item.units, scanItems_blanks here.1 here.2, ih later]
          rfl
      | number | shortMonth | longMonth | shortWeekday | longWeekday | halfDay | fraction | pointed
      | bare | offset =>
          change scanItems parts text (_ :: rest.flatMap Item.units) = .ok after ↔ _
          rw [scanItems_cons, scanItems_cons]
          simp only [ih later]

end

/-! ## Layouts that take the place of each other -/

/-- Two layouts read the same texts, to the same parts and moments, and write every moment as the
    same text. -/
structure Layout.Interchangeable (one other : Layout) : Prop where
  reads : ∀ parts text after,
    scanItems parts text one.items = .ok after ↔ scanItems parts text other.items = .ok after
  denotes : ∀ text moment, one.scan text = .ok moment ↔ other.scan text = .ok moment
  writes : ∀ moment, one.print moment = other.print moment

/-- All items of a layout are like those of patterns. -/
def Layout.Proper (layout : Layout) : Prop :=
  ∀ item ∈ layout.items, item.Proper

theorem Layout.print_eq_units (layout : Layout) (moment : Moment) :
    layout.print moment =
      layout.units.flatMap (Item.print moment.toLocal moment.offset) := by
  rw [Layout.print, Layout.units, List.flatMap_assoc]
  simp only [print_units]

theorem Layout.interchangeable_of_units {one other : Layout} (first : one.Proper)
    (second : other.Proper) (same : one.units = other.units) : one.Interchangeable other := by
  have reads : ∀ parts text after, scanItems parts text one.items = .ok after ↔
      scanItems parts text other.items = .ok after := by
    intro parts text after
    calc
      scanItems parts text one.items = .ok after
        ↔ scanItems parts text one.units = .ok after := (scanItems_units first).symm
      _ ↔ scanItems parts text other.units = .ok after := by rw [same]
      _ ↔ scanItems parts text other.items = .ok after := scanItems_units second
  refine ⟨reads, fun text moment => ?_, fun moment => ?_⟩
  · rw [Layout.scan, Layout.scan, Outcome.bind_eq_ok, Outcome.bind_eq_ok]
    simp only [reads]
  · rw [print_eq_units, print_eq_units, same]

/-! ## What patterns build -/

/-- A layout is what a pattern builds under a choice of its sections that leaves something, whether
    it is kept or an earlier one has its canonical text. -/
def Builds (pattern : List Char) (layout : Layout) : Prop :=
  ∃ tree, parts pattern = .ok tree ∧
    ∃ atoms ∈ choices tree, atoms ≠ [] ∧ items atoms = .ok layout.items

section

variable {pattern another : List Char} {one other layout : Layout} {layouts : List Layout}

theorem Builds.proper (builds : Builds pattern layout) : layout.Proper := by
  obtain ⟨-, -, atoms, -, -, made⟩ := builds
  exact proper_items made

theorem Builds.interchangeable (first : Builds pattern one) (second : Builds another other)
    (same : one.canonical = other.canonical) : one.Interchangeable other :=
  Layout.interchangeable_of_units first.proper second.proper (Layout.units_eq_of_canonical same)

theorem builds_of_mem (expanded : expand pattern = .ok layouts) (inside : layout ∈ layouts) :
    Builds pattern layout := by
  obtain ⟨tree, rows, read, built, rfl, -⟩ := expand_eq_ok.mp expanded
  obtain ⟨atoms, chosen, made⟩ :=
    Lists.exists_left (layoutsOf_eq_ok.mp built) (Layout.distinct_sublist.subset inside)
  obtain ⟨selects, nonempty⟩ := mem_filled.mp chosen
  exact ⟨tree, read, atoms, mem_choices.mpr selects, nonempty, made⟩

theorem Builds.canonical_mem (builds : Builds pattern layout)
    (expanded : expand pattern = .ok layouts) :
    layout.canonical ∈ layouts.map Layout.canonical := by
  obtain ⟨tree, rows, read, built, rfl, -⟩ := expand_eq_ok.mp expanded
  obtain ⟨own, again, atoms, chosen, nonempty, made⟩ := builds
  cases read.symm.trans again
  have yields : ∃ atoms, Yields tree layout.canonical atoms :=
    ⟨atoms, mem_choices.mp chosen, nonempty, layout, made, rfl⟩
  exact Layout.canonical_mem_distinct.mpr ⟨(yields_iff built).mp yields, List.not_mem_nil⟩

end

end StoreSchema.Date

namespace StoreSchema

namespace DateFormat

open Date (Layout Builds)

variable {source : String} {preferred : Option String} {preferEpoch : Bool} {format : DateFormat}

/-- A format has a layout in place of each one that a pattern builds. -/
def Covers (format : DateFormat) (pattern : String) : Prop :=
  ∀ layout, Builds pattern.toList layout → ∃ kept ∈ format.layouts, layout.Interchangeable kept

/-- A format is written in a layout of its own in place of the first one of a pattern. -/
def WritesLike (format : DateFormat) (pattern : String) : Prop :=
  ∃ first others, Date.expand pattern.toList = .ok (first :: others) ∧
    ∃ layout ∈ format.layouts, format.written = some layout ∧ first.Interchangeable layout

theorem builds_of_compile (compiled : compile source preferred preferEpoch = .ok format)
    {layout : Layout} (inside : layout ∈ format.layouts) :
    ∃ pattern, Builds pattern layout := by
  obtain ⟨epoch, patterns, layouts, preference, -, expanded, -, rfl⟩ := compile_ok compiled
  obtain ⟨each, made, rfl⟩ := expandAll_eq_ok.mp expanded
  have kept : layout ∈ Layout.distinct [] each.flatten := by cases preference <;> exact inside
  obtain ⟨own, member, there⟩ := List.mem_flatten.mp (Layout.distinct_sublist.subset kept)
  obtain ⟨pattern, -, found⟩ := Lists.exists_left (Outcome.mapM_eq_ok.mp made) member
  exact ⟨pattern.toList, Date.builds_of_mem (expand_ok found) there⟩

/-- Layouts are merged only where one stays in their place. -/
theorem covers_of_compile (compiled : compile source preferred preferEpoch = .ok format)
    {epoch : Option EpochUnit} {patterns : List String}
    (gathered : gather source none [] (listed source) = .ok (epoch, patterns)) {pattern : String}
    (inside : pattern ∈ patterns) : format.Covers pattern := by
  intro layout builds
  have stays : layout.canonical ∈ format.layouts.map Layout.canonical := by
    obtain ⟨unit, others, layouts, preference, again, expanded, -, rfl⟩ := compile_ok compiled
    cases gathered.symm.trans again
    obtain ⟨each, made, rfl⟩ := expandAll_eq_ok.mp expanded
    obtain ⟨own, member, found⟩ := Lists.exists_right (Outcome.mapM_eq_ok.mp made) inside
    obtain ⟨other, there, same⟩ := List.mem_map.mp (builds.canonical_mem (expand_ok found))
    have whole : layout.canonical ∈ each.flatten.map Layout.canonical :=
      List.mem_map.mpr ⟨other, List.mem_flatten_of_mem member there, same⟩
    have kept := Layout.canonical_mem_distinct.mpr ⟨whole, List.not_mem_nil (a := layout.canonical)⟩
    cases preference <;> exact kept
  obtain ⟨kept, member, same⟩ := List.mem_map.mp stays
  obtain ⟨other, found⟩ := builds_of_compile compiled member
  exact ⟨kept, member, builds.interchangeable found same.symm⟩

theorem writesLike_of_writesAs (compiled : compile source preferred preferEpoch = .ok format)
    {pattern : String} (writes : format.WritesAs pattern preferEpoch) :
    format.WritesLike pattern := by
  obtain ⟨first, others, expanded, layout, member, same, written, -⟩ := writes
  obtain ⟨other, found⟩ := builds_of_compile compiled member
  have own := Date.builds_of_mem expanded List.mem_cons_self
  exact ⟨first, others, expanded, layout, member, written, own.interchangeable found same.symm⟩

end DateFormat

open Date DateFormat in
/-- The canonical text identifies a layout: layouts that any two patterns build with the same text
    take the place of each other. So a format has a layout in place of each one that its patterns
    build, those that were merged included, and a pattern as preferred format chooses a layout in
    place of its first one. -/
theorem canonical_text_identifies_layouts :
    (∀ {pattern another one other}, Builds pattern one → Builds another other →
      one.canonical = other.canonical → one.Interchangeable other) ∧
    (∀ {source preferred preferEpoch format epoch patterns},
      compile source preferred preferEpoch = .ok format →
        gather source none [] (listed source) = .ok (epoch, patterns) →
          ∀ pattern ∈ patterns, format.Covers pattern) ∧
    (∀ {source preferred preferEpoch format},
      compile source (some preferred) preferEpoch = .ok format → preferredText preferred ≠ "" →
        (∀ unit : EpochUnit, preferredText preferred ≠ unit.marker) →
          format.WritesLike (patternOf (preferredText preferred))) := by
  refine ⟨Builds.interchangeable, ?_, ?_⟩
  · intro source preferred preferEpoch format epoch patterns compiled gathered pattern inside
    exact covers_of_compile compiled gathered inside
  · intro source preferred preferEpoch format compiled visible unmarked
    exact writesLike_of_writesAs compiled (writesAs_of_pattern compiled visible unmarked)

namespace Sample

open Date (Builds Layout)

/-- The layout of a year and a quoted literal of two signs. -/
def quotedSigns : Layout :=
  ⟨[.number .year true, .literal ['-', '/']]⟩

/-- The layout of a year and the same two signs. -/
def plainSigns : Layout :=
  ⟨[.number .year true, .literal ['-'], .literal ['/']]⟩

theorem quotedSigns_built : Builds "yyyy\x27-/\x27".toList quotedSigns :=
  ⟨[.atom (.char 'y'), .atom (.char 'y'), .atom (.char 'y'), .atom (.char 'y'),
      .atom (.quoted ['-', '/'])],
    rfl, [.char 'y', .char 'y', .char 'y', .char 'y', .quoted ['-', '/']], by decide, by decide,
    Outcome.toOption_eq_some.mp (by decide +kernel)⟩

theorem plainSigns_built : Builds "yyyy-/".toList plainSigns :=
  ⟨[.atom (.char 'y'), .atom (.char 'y'), .atom (.char 'y'), .atom (.char 'y'), .atom (.char '-'),
      .atom (.char '/')],
    rfl, [.char 'y', .char 'y', .char 'y', .char 'y', .char '-', .char '/'], by decide, by decide,
    Outcome.toOption_eq_some.mp (by decide +kernel)⟩

/-- A format of both, with the second one preferred. -/
def merged : DateFormat :=
  ⟨"yyyy\x27-/\x27||yyyy-/", [quotedSigns], none, some quotedSigns, false⟩

theorem merged_compiled :
    DateFormat.compile "yyyy\x27-/\x27||yyyy-/" (some "yyyy-/") false = .ok merged :=
  Outcome.toOption_eq_some.mp (by decide +kernel)

theorem merged_gathered :
    DateFormat.gather "yyyy\x27-/\x27||yyyy-/" none []
      (DateFormat.listed "yyyy\x27-/\x27||yyyy-/") =
        .ok (none, ["yyyy\x27-/\x27", "yyyy-/"]) :=
  Outcome.toOption_eq_some.mp (by decide +kernel)

end Sample

/-- A literal of two signs and two literals of one sign have one canonical text, and only their
    misreads tell them apart. -/
theorem sample_canonical_text_identifies_layouts :
    Sample.quotedSigns ≠ Sample.plainSigns ∧ Sample.quotedSigns.Interchangeable Sample.plainSigns ∧
      Sample.merged.Covers "yyyy-/" ∧ Sample.merged.WritesLike "yyyy-/" ∧
        Sample.quotedSigns.scan "2020x".toList = .error .tooShort ∧
          Sample.plainSigns.scan "2020x".toList = .error .invalid := by
  obtain ⟨identifies, merges, prefers⟩ := canonical_text_identifies_layouts
  have alike := identifies Sample.quotedSigns_built Sample.plainSigns_built rfl
  refine ⟨by decide, alike, ?_, ?_, rfl, rfl⟩
  · exact merges Sample.merged_compiled Sample.merged_gathered "yyyy-/" (by decide)
  · have text : Date.patternOf (DateFormat.preferredText "yyyy-/") = "yyyy-/" := by decide +kernel
    rw [← text]
    refine prefers Sample.merged_compiled (by decide) fun unit => ?_
    cases unit <;> decide

end StoreSchema
