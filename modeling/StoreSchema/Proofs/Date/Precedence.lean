import StoreSchema.Proofs.Date.Apart
import StoreSchema.Proofs.Date.Preferring
import StoreSchema.Proofs.Date.Rereading
import StoreSchema.Proofs.Date.Years

/-! # The layout that reads what was written

Texts are written in one layout and read by the first one that takes them. A layout that stands
before the one that texts are written in can capture what was written, and read another moment. It
does not if it spares the layout that texts are written in; and without a preferred format, none
stands before that one.
-/

namespace StoreSchema

open Date (Layout)

namespace DateFormat

/-! ## The first layout that takes a text -/

/-- Of some layouts, the first that takes a text reads it as a moment. -/
inductive Captures (text : List Char) (moment : Moment) : List Layout → Prop where
  | here {layout : Layout} (read : layout.scan text = .ok moment) (rest : List Layout) :
      Captures text moment (layout :: rest)
  | later {layout : Layout} {misread : Date.Misread} {rest : List Layout}
      (refused : layout.scan text = .error misread) (captured : Captures text moment rest) :
      Captures text moment (layout :: rest)

section

variable {text : List Char} {moment : Moment} {layout : Layout} {layouts earlier : List Layout}

theorem tryLayouts_eq_ok : tryLayouts text layouts = .ok moment ↔ Captures text moment layouts := by
  induction layouts with
  | nil =>
      constructor
      · nofun
      · nofun
  | cons first rest ih =>
      constructor
      · intro ok
        rw [tryLayouts] at ok
        split at ok
        next read =>
          cases ok
          exact .here read rest
        next refused =>
          split at ok
          next later =>
            cases ok
            exact .later refused (ih.mp later)
          next => cases ok
      · intro captured
        rw [tryLayouts]
        cases captured with
        | here read => rw [read]
        | later refused captured => simp only [refused, ih.mpr captured]

theorem Captures.append (captured : Captures text moment earlier) (more : List Layout) :
    Captures text moment (earlier ++ more) := by
  induction captured with
  | here read rest => exact .here read (rest ++ more)
  | later refused _ ih => exact .later refused ih

theorem captures_of_read (free : ∀ other, ¬ Captures text other earlier)
    (read : layout.scan text = .ok moment) (more : List Layout) :
    Captures text moment (earlier ++ layout :: more) := by
  induction earlier with
  | nil => exact .here read more
  | cons first rest ih =>
      cases taken : first.scan text with
      | ok other => exact absurd (.here taken rest) (free other)
      | error misread => exact .later taken (ih fun other later => free other (.later taken later))

theorem Captures.unique {other : Moment} (captured : Captures text moment layouts)
    (again : Captures text other layouts) : moment = other := by
  have first := tryLayouts_eq_ok.mpr captured
  rw [tryLayouts_eq_ok.mpr again] at first
  exact (Except.ok.inj first).symm

theorem ofText_eq_ok {format : DateFormat} {text : String} :
    format.ofText text = .ok moment ↔ Captures text.toList moment format.layouts := by
  rw [← tryLayouts_eq_ok, ofText]
  cases tryLayouts text.toList format.layouts <;> simp

theorem ofText_of_captures {format : DateFormat} (captured : Captures text moment format.layouts) :
    format.ofText (String.ofList text) = .ok moment :=
  ofText_eq_ok.mpr (by rwa [String.toList_ofList])

end

/-! ## Reading what was written -/

/-- A format reads a text that one of its layouts takes, with the layouts before that one given: the
    first layout that takes the text reads it. That is the same moment unless an earlier layout
    captures the text as another one, and none does if all of them spare the layout. -/
structure FirstReads (format : DateFormat) (layout : Layout) (text : List Char)
    (moment read : Moment) (earlier : List Layout) : Prop where
  order : ∃ later, format.layouts = earlier ++ layout :: later
  before : layout ∉ earlier
  reads : format.ofText (String.ofList text) = .ok read
  first : Captures text read (earlier ++ [layout])
  same_iff : read = moment ↔ ∀ other, Captures text other earlier → other = moment
  spared : (∀ other ∈ earlier, other.spares layout) → read = moment

variable {format : DateFormat} {layout : Layout}

theorem marshalLayout_place {source : String} {preferred : Option String} {preferEpoch : Bool}
    (compiled : compile source preferred preferEpoch = .ok format)
    (texts : format.marshalLayout = some layout) :
    ∃ earlier later, format.layouts = earlier ++ layout :: later ∧ layout ∉ earlier ∧
      (preferredText (preferred.getD "") = "" → earlier = []) := by
  obtain ⟨epoch, patterns, layouts, preference, -, -, stated, rfl⟩ := compile_ok compiled
  obtain ⟨noNumber, written⟩ := written_of_marshalLayout texts
  cases preferenceOf_states stated with
  | nothing =>
      obtain ⟨later, same⟩ := List.head?_eq_some_iff.mp written
      exact ⟨[], later, same, List.not_mem_nil, fun _ => rfl⟩
  | epoch => cases noNumber
  | layout visible _ _ inside =>
      cases written
      obtain ⟨earlier, later, same, before⟩ := List.eq_append_cons_of_mem inside
      exact ⟨earlier, later, same, before, fun blank => absurd blank visible⟩

theorem firstReads {earlier later : List Layout}
    (order : format.layouts = earlier ++ layout :: later) (before : layout ∉ earlier)
    {m moment : Moment} (writable : m.Writable)
    (alone : layout.scan (layout.print m) = .ok moment) :
    ∃ read, format.FirstReads layout (layout.print m) moment read earlier := by
  by_cases free : ∀ other, ¬ Captures (layout.print m) other earlier
  · have captured := captures_of_read free alone later
    refine ⟨moment, ⟨later, order⟩, before, ofText_of_captures (order ▸ captured),
      captures_of_read free alone [], ?_, fun _ => rfl⟩
    exact iff_of_true rfl fun other captured => absurd captured (free other)
  · obtain ⟨read, captured⟩ := not_forall_not.mp free
    refine ⟨read, ⟨later, order⟩, before, ofText_of_captures (order ▸ captured.append _),
      captured.append _, ?_, ?_⟩
    · constructor
      · rintro rfl other again
        exact again.unique captured
      · intro all
        exact all read captured
    · intro spare
      obtain ⟨taking, inside, taken⟩ := tryLayouts_ok (tryLayouts_eq_ok.mpr captured)
      exact taking.spares_scan (spare taking inside) writable taken alone

end DateFormat

/-- What a moment is written as can be read, if the layout that it is written in can read it. The
    first layout of the format that takes the text decides what is read; without a preferred format
    it is the one that wrote the text. -/
theorem first_layout_reads_written {source : String} {preferred : Option String}
    {preferEpoch : Bool} {format : DateFormat} {layout : Layout} {m moment : Moment}
    (compiled : DateFormat.compile source preferred preferEpoch = .ok format)
    (texts : format.marshalLayout = some layout) (writable : m.Writable)
    (alone : layout.scan (layout.print m) = .ok moment) :
    format.toText m = .ok (String.ofList (layout.print m)) ∧
      ∃ read earlier, format.FirstReads layout (layout.print m) moment read earlier ∧
        (DateFormat.preferredText (preferred.getD "") = "" → earlier = []) := by
  obtain ⟨earlier, later, order, before, leading⟩ := DateFormat.marshalLayout_place compiled texts
  obtain ⟨read, reads⟩ := DateFormat.firstReads order before writable alone
  obtain ⟨-, written⟩ := DateFormat.written_of_marshalLayout texts
  exact ⟨DateFormat.toText_layout written writable, read, earlier, reads, leading⟩

namespace Sample

/-- The layout of `dd/MM/yyyy`. -/
def dayFirst : Layout :=
  ⟨[.number .day true, .literal ['/'], .number .month true, .literal ['/'], .number .year true]⟩

/-- The layout of `MM/dd/yyyy`. -/
def monthFirst : Layout :=
  ⟨[.number .month true, .literal ['/'], .number .day true, .literal ['/'], .number .year true]⟩

/-- The first of February 2020. -/
def february : Moment := ⟨1580515200, 0, 0⟩

/-- The second of January 2020. -/
def january : Moment := ⟨1577923200, 0, 0⟩

theorem february_writable : february.Writable := by
  constructor <;> decide

/-- A format whose layouts begin with a day of two digits and a year of four. -/
def yearPreferred : DateFormat :=
  ⟨"dd/MM/yyyy||yyyy/MM/dd", [dayFirst, slashed], none, some slashed, false⟩

theorem yearPreferred_compiled :
    DateFormat.compile "dd/MM/yyyy||yyyy/MM/dd" (some "yyyy/MM/dd") false = .ok yearPreferred :=
  Outcome.toOption_eq_some.mp (by decide +kernel)

/-- A format whose layouts take the same texts. -/
def monthPreferred : DateFormat :=
  ⟨"dd/MM/yyyy||MM/dd/yyyy", [dayFirst, monthFirst], none, some monthFirst, false⟩

theorem monthPreferred_compiled :
    DateFormat.compile "dd/MM/yyyy||MM/dd/yyyy" (some "MM/dd/yyyy") false = .ok monthPreferred :=
  Outcome.toOption_eq_some.mp (by decide +kernel)

end Sample

theorem sample_first_layout_reads_written :
    Sample.yearPreferred.toText Sample.february = .ok "2020/02/01" ∧
      Sample.yearPreferred.ofText "2020/02/01" = .ok Sample.february := by
  have alone : Sample.slashed.scan (Sample.slashed.print Sample.february) =
      .ok Sample.february := by
    with_unfolding_all rfl
  have text : String.ofList (Sample.slashed.print Sample.february) = "2020/02/01" := by
    with_unfolding_all rfl
  obtain ⟨written, read, earlier, reads, -⟩ := first_layout_reads_written
    Sample.yearPreferred_compiled rfl Sample.february_writable alone
  have spared : ∀ layout ∈ Sample.yearPreferred.layouts, layout.spares Sample.slashed := by
    decide
  obtain ⟨later, order⟩ := reads.order
  have same := reads.spared fun other inside =>
    spared other (order ▸ List.mem_append_left _ inside)
  have found := reads.reads
  rw [text] at written found
  exact ⟨written, same ▸ found⟩

/-- Where the day may come first, the first of February is read back as the second of January. -/
theorem sample_written_text_is_captured :
    DateFormat.compile "dd/MM/yyyy||MM/dd/yyyy" (some "MM/dd/yyyy") false =
        .ok Sample.monthPreferred ∧
      Sample.monthPreferred.marshalLayout = some Sample.monthFirst ∧
        Sample.february.Writable ∧
          Sample.monthPreferred.toText Sample.february = .ok "02/01/2020" ∧
            Sample.monthFirst.scan "02/01/2020".toList = .ok Sample.february ∧
              Sample.monthPreferred.ofText "02/01/2020" = .ok Sample.january ∧
                Sample.january ≠ Sample.february := by
  refine ⟨Sample.monthPreferred_compiled, rfl, Sample.february_writable, ?_, ?_, ?_, by decide⟩
  · with_unfolding_all rfl
  · with_unfolding_all rfl
  · with_unfolding_all rfl

end StoreSchema
