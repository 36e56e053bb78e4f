import StoreSchema.Leaf.Aggregate
import StoreSchema.Leaf.Binary
import StoreSchema.Leaf.Boolean
import StoreSchema.Proofs.Json.Numbers
import StoreSchema.Proofs.Json.Records
import StoreSchema.Proofs.Leaf.GeoPoint

/-! # Leaves that are read back

A leaf comes in several shapes and is written in one. What is written is read as the same leaf
again, unless the leaf is a point with a coordinate that is infinite or no number. Only texts have
words for such coordinates, and the shape that is written has none.
-/

namespace StoreSchema

namespace Document

theorem Sound.parts {document : Document} (sound : document.Sound) :
    ∀ part ∈ document.parts, part.Sound := by
  cases sound with
  | scalar each => exact List.forall_mem_nil _
  | arr ending each => exact each
  | obj ending each =>
      intro part inside
      obtain ⟨entry, member, rfl⟩ := List.mem_map.mp inside
      exact each entry member
  | cut => exact List.forall_mem_nil _

end Document

namespace Leaf

/-- What is written of a leaf is read as the same leaf, which is written in the same way again. -/
def ReadsBack {ε α : Type} (read : Json → Except ε α) (write : α → Json) (leaf : α) : Prop :=
  ∃ back, read (write leaf) = .ok back ∧ back = leaf ∧ write back = write leaf

theorem readsBack_iff {ε α : Type} {read : Json → Except ε α} {write : α → Json} {leaf : α} :
    ReadsBack read write leaf ↔ read (write leaf) = .ok leaf := by
  constructor
  · rintro ⟨back, again, rfl, -⟩
    exact again
  · intro again
    exact ⟨leaf, again, rfl, rfl⟩

/-! ## Truth values and binary values -/

theorem BooleanStyle.ofJson_toJson (style : BooleanStyle) (value : Bool) :
    style.ofJson (style.toJson value) = .ok value := by
  cases style <;> cases value <;> rfl

theorem Binary.ofJson_toJson {value : Json} {binary : Binary} (read : ofJson value = .ok binary) :
    ofJson binary.toJson = .ok binary := by
  cases value with
  | str text =>
      have same : binary.toJson = .str text := by
        cases decoded : decode text with
        | ok bytes =>
            rw [ofJson, ofText, decoded] at read
            exact Except.ok.inj read ▸ rfl
        | error fault =>
            rw [ofJson, ofText, decoded] at read
            cases read
      rw [same, read]
  | null | bool | int | float | arr | obj => cases read

/-! ## Aggregates -/

theorem optional_eq_ok {α : Type} {read : Json → Except Decoding.Cause α} {value : Json}
    {part : Option α} (result : optional read value = .ok part) :
    ∀ leaf ∈ part, read value = .ok leaf := by
  unfold optional at result
  split at result
  next => exact Except.ok.inj result ▸ nofun
  next =>
    cases found : read value with
    | ok leaf =>
        rw [found] at result
        exact Except.ok.inj result ▸ fun other same => Option.some.inj same ▸ rfl
    | error cause =>
        rw [found] at result
        cases result

namespace Aggregate

open Decoding (fill writtenMembers ifPresent)

/-- An aggregate whose parts can be written out. -/
structure Writable (aggregate : Aggregate) : Prop where
  min : ∀ double ∈ aggregate.min, double.IsFinite
  max : ∀ double ∈ aggregate.max, double.IsFinite
  sum : ∀ double ∈ aggregate.sum, double.IsFinite
  valueCount : ∀ count ∈ aggregate.valueCount, 0 ≤ count ∧ count ≤ Nat.pow 2 64 - 1

theorem part_eq_ok {α : Type} {read : Json → Except Decoding.Cause α} {document : Document}
    {leaf : α} :
    part read document = .ok leaf ↔
      ∃ value, document.value? = some value ∧ read value = .ok leaf := by
  unfold part Decoding.anyValue
  cases document.value? with
  | none => exact iff_of_false nofun (by rintro ⟨value, found, -⟩; cases found)
  | some value =>
      simp only [Outcome.ok_bind, Option.some.injEq, exists_eq_left']
      cases read value with
      | ok other =>
          dsimp only
          rw [Outcome.pure_eq_ok, Except.ok.injEq]
      | error cause => exact iff_of_false nofun nofun

theorem double_finite {value : Json} (sound : value.Sound) {double : Option Binary64}
    (read : optional Leaf.double value = .ok double) : ∀ d ∈ double, d.IsFinite := by
  intro d present
  have found := optional_eq_ok read d present
  unfold Leaf.double at found
  split at found
  next other same => exact Except.ok.inj found ▸ sound.double same
  next => cases found

theorem unsigned64_bounds {value : Json} {count : Option Int}
    (read : optional unsigned64 value = .ok count) :
    ∀ n ∈ count, 0 ≤ n ∧ n ≤ Nat.pow 2 64 - 1 := by
  intro n present
  have found := optional_eq_ok read n present
  cases value with
  | int other =>
      unfold unsigned64 integer at found
      dsimp only at found
      split at found
      next bounds => exact Except.ok.inj found ▸ bounds
      next => cases found
  | null | bool | float | str | arr | obj => cases found

theorem keeps_part {α : Type} {name : String} {read : Json → Except Decoding.Cause α}
    {store : α → Aggregate → Aggregate}
    (stores : ∀ value leaf, value.Sound → read value = .ok leaf →
      ∀ aggregate : Aggregate, aggregate.Writable → (store leaf aggregate).Writable) :
    (Decoding.field name (part read) store).Keeps Document.Sound Writable := by
  intro content aggregate after sound before result
  obtain ⟨leaf, found, stored⟩ := Outcome.bind_eq_ok.mp result
  obtain ⟨value, denoted, same⟩ := part_eq_ok.mp found
  exact Outcome.pure_eq_ok.mp stored ▸ stores value leaf (sound.value denoted) same aggregate before

def minField : Decoding.Field Aggregate :=
  Decoding.field "min" (part (optional double)) fun min aggregate => { aggregate with min }

def maxField : Decoding.Field Aggregate :=
  Decoding.field "max" (part (optional double)) fun max aggregate => { aggregate with max }

def sumField : Decoding.Field Aggregate :=
  Decoding.field "sum" (part (optional double)) fun sum aggregate => { aggregate with sum }

def valueCountField : Decoding.Field Aggregate :=
  Decoding.field "value_count" (part (optional unsigned64)) fun valueCount aggregate =>
    { aggregate with valueCount }

theorem fields_eq : fields = [minField, maxField, sumField, valueCountField] := rfl

theorem fields_keep : ∀ field ∈ fields, field.Keeps Document.Sound Writable := by
  simp only [fields_eq, List.forall_mem_cons]
  refine ⟨keeps_part ?_, keeps_part ?_, keeps_part ?_, keeps_part ?_, List.forall_mem_nil _⟩
  · exact fun value leaf sound read _ before => { before with min := double_finite sound read }
  · exact fun value leaf sound read _ before => { before with max := double_finite sound read }
  · exact fun value leaf sound read _ before => { before with sum := double_finite sound read }
  · exact fun value leaf sound read _ before => { before with valueCount := unsigned64_bounds read }

theorem ofJson_eq_ok {value : Json} {aggregate : Aggregate} :
    ofJson value = .ok aggregate ↔
      Decoding.record .value "struct AggregateMetricDouble" fields {} (.ofJson value) =
        .ok aggregate := by
  unfold ofJson
  split
  next other same => rw [same, Except.ok.injEq, Except.ok.injEq]
  next e same =>
    rw [same]
    exact iff_of_false nofun nofun

theorem writable_empty : Writable {} := by
  constructor <;> exact fun _ present => by cases present

theorem writable_ofJson {value : Json} (sound : value.Sound) {aggregate : Aggregate}
    (read : ofJson value = .ok aggregate) : aggregate.Writable :=
  Decoding.record_keeps fields_keep (Document.sound_ofJson sound).parts writable_empty
    (ofJson_eq_ok.mp read)

/-- The parts of an aggregate that are written, with their values. -/
def written (aggregate : Aggregate) : List (Decoding.Field Aggregate × Json) :=
  ifPresent minField Json.ofDouble aggregate.min ++
    (ifPresent maxField Json.ofDouble aggregate.max ++
      (ifPresent sumField Json.ofDouble aggregate.sum ++
        ifPresent valueCountField .int aggregate.valueCount))

theorem writtenMembers_ifPresent {α : Type} (field : Decoding.Field Aggregate) (toJson : α → Json)
    (part : Option α) :
    writtenMembers (ifPresent field toJson part) = member field.name toJson part := by
  cases part <;> rfl

theorem toJson_eq (aggregate : Aggregate) :
    aggregate.toJson = .obj (writtenMembers aggregate.written) := by
  have each : ∀ first second : List (Decoding.Field Aggregate × Json),
      writtenMembers (first ++ second) = writtenMembers first ++ writtenMembers second :=
    fun _ _ => List.map_append
  simp only [toJson, written, each, writtenMembers_ifPresent, List.append_assoc]
  rfl

theorem written_sublist (aggregate : Aggregate) :
    (aggregate.written.map Prod.fst).Sublist fields := by
  simp only [written, List.map_append]
  exact (Decoding.ifPresent_sublist ..).append ((Decoding.ifPresent_sublist ..).append
    ((Decoding.ifPresent_sublist ..).append (Decoding.ifPresent_sublist ..)))

theorem part_double {double : Binary64} (finite : double.IsFinite) :
    part (optional Leaf.double) (.ofJson (Json.ofDouble double)) = .ok (some double) := by
  obtain ⟨negative, mantissa, exponent, rfl⟩ := finite
  rfl

theorem part_count {count : Int} (bounds : 0 ≤ count ∧ count ≤ Nat.pow 2 64 - 1) :
    part (optional unsigned64) (.ofJson (.int count)) = .ok (some count) := by
  refine part_eq_ok.mpr ⟨.int count, rfl, ?_⟩
  rw [optional, unsigned64, integer, if_pos bounds]
  · rfl
  · exact nofun

theorem fill_written {aggregate : Aggregate} (writable : aggregate.Writable) :
    fill aggregate.written {} = .ok aggregate := by
  have min : fill (ifPresent minField Json.ofDouble aggregate.min) {} =
      .ok { min := aggregate.min } :=
    Decoding.fill_ifPresent (fun double present => part_double (writable.min double present)) rfl
  have max : fill (ifPresent maxField Json.ofDouble aggregate.max) { min := aggregate.min } =
      .ok { min := aggregate.min, max := aggregate.max } :=
    Decoding.fill_ifPresent (fun double present => part_double (writable.max double present)) rfl
  have sum : fill (ifPresent sumField Json.ofDouble aggregate.sum)
        { min := aggregate.min, max := aggregate.max } =
      .ok { aggregate with valueCount := none } :=
    Decoding.fill_ifPresent (fun double present => part_double (writable.sum double present)) rfl
  have valueCount : fill (ifPresent valueCountField .int aggregate.valueCount)
        { aggregate with valueCount := none } = .ok aggregate :=
    Decoding.fill_ifPresent (fun n present => part_count (writable.valueCount n present)) rfl
  rw [written, Decoding.fill_append, min, Outcome.ok_bind, Decoding.fill_append, max,
    Outcome.ok_bind, Decoding.fill_append, sum, Outcome.ok_bind, valueCount]

theorem ofJson_toJson {aggregate : Aggregate} (writable : aggregate.Writable) :
    ofJson aggregate.toJson = .ok aggregate := by
  rw [ofJson_eq_ok, toJson_eq,
    Decoding.record_fill_some (by decide) aggregate.written_sublist, fill_written writable]

end Aggregate

/-! ## Points -/

namespace GeoPoint

/-- A point with coordinates that can be written out. -/
def IsFinite (point : GeoPoint) : Prop :=
  point.lat.IsFinite ∧ point.lon.IsFinite

theorem ofCoordinates?_eq_some_iff {lon lat : Json} {more : List Json} {point : GeoPoint} :
    ofCoordinates? (lon :: lat :: more) = some point ↔
      lat.double? = some point.lat ∧ lon.double? = some point.lon := by
  obtain ⟨pointLat, pointLon⟩ := point
  simp only [ofCoordinates?, Option.bind_eq_bind, Option.bind_eq_some_iff, Option.pure_def,
    Option.some.injEq, mk.injEq]
  constructor
  · rintro ⟨_, lat, _, lon, rfl, rfl⟩
    exact ⟨lat, lon⟩
  · rintro ⟨lat, lon⟩
    exact ⟨pointLat, lat, pointLon, lon, rfl, rfl⟩

theorem ofJson_eq_ok {value : Json} {point : GeoPoint} :
    ofJson value = .ok point ↔ ofJson? value = some point := by
  unfold ofJson
  cases ofJson? value with
  | none => exact iff_of_false nofun nofun
  | some other => rw [Except.ok.injEq, Option.some.injEq]

theorem ofJson?_toJson (point : GeoPoint) :
    ofJson? point.toJson = ofCoordinates? [.ofDouble point.lon, .ofDouble point.lat] := rfl

theorem ofJson_toJson_iff {point : GeoPoint} :
    ofJson point.toJson = .ok point ↔ point.IsFinite := by
  rw [ofJson_eq_ok, ofJson?_toJson, ofCoordinates?_eq_some_iff]
  have each (double : Binary64) :
      (Json.ofDouble double).double? = some double ↔ double.IsFinite := by
    refine ⟨fun written => ?_, Json.double?_ofDouble⟩
    by_contra beyond
    rw [Json.ofDouble_eq_null beyond] at written
    cases written
  rw [each, each, IsFinite]

theorem ofJson_toJson_eq_error {point : GeoPoint} (beyond : ¬ point.IsFinite) :
    ofJson point.toJson = .error ⟨point.toJson.text, accepted, "GeoPoint"⟩ := by
  have unread : ofJson? point.toJson = none := by
    rw [ofJson?_toJson, Option.eq_none_iff_forall_ne_some]
    intro other read
    obtain ⟨lat, lon⟩ := ofCoordinates?_eq_some_iff.mp read
    rw [IsFinite, not_and_or] at beyond
    cases beyond with
    | inl beyond =>
        rw [Json.ofDouble_eq_null beyond] at lat
        cases lat
    | inr beyond =>
        rw [Json.ofDouble_eq_null beyond] at lon
        cases lon
  rw [ofJson, unread]

theorem isFinite_ofCoordinates {items : List Json} (sound : ∀ item ∈ items, item.Sound)
    {point : GeoPoint} (read : ofCoordinates? items = some point) : point.IsFinite := by
  match items with
  | [] | [_] => cases read
  | lon :: lat :: more =>
      obtain ⟨readLat, readLon⟩ := ofCoordinates?_eq_some_iff.mp read
      have lonSound : lon.Sound := sound lon (by simp)
      have latSound : lat.Sound := sound lat (by simp)
      exact ⟨latSound.double readLat, lonSound.double readLon⟩

theorem isFinite_ofMembers {members : List (String × Json)} (sound : (Json.obj members).Sound)
    {point : GeoPoint} (read : ofMembers? members = some point) : point.IsFinite := by
  unfold ofMembers? at read
  split at read
  next =>
    simp only [Option.bind_eq_bind, Option.bind_eq_some_iff] at read
    obtain ⟨coordinates, found, items, list, read⟩ := read
    cases coordinates with
    | arr other =>
        cases list
        exact isFinite_ofCoordinates (fun item inside => (sound.member found).item inside) read
    | null | bool | int | float | str | obj => cases list
  next => cases read
  next =>
    simp only [Option.bind_eq_bind, Option.bind_eq_some_iff] at read
    obtain ⟨lat, foundLat, lon, foundLon, read⟩ := read
    refine isFinite_ofCoordinates ?_ read
    exact List.forall_mem_cons.mpr ⟨sound.member foundLon,
      List.forall_mem_singleton.mpr (sound.member foundLat)⟩

theorem isFinite_ofGeohash {signs : List Char} {point : GeoPoint}
    (read : ofGeohash? signs = some point) : point.IsFinite := by
  have finite : ∀ {double : Binary64} {q : Rat}, double.toRat? = some q → double.IsFinite := by
    intro double q value
    cases double with
    | finite negative mantissa exponent => exact ⟨negative, mantissa, exponent, rfl⟩
    | infinite | nan => cases value
  rw [← String.toList_ofList (l := signs)] at read
  obtain ⟨hash, rfl⟩ := ofGeohash?_eq_some_iff.mp read
  exact ⟨finite hash.centre.lat, finite hash.centre.lon⟩

/-- A text that spells out its coordinates, behind the word for a point or on both sides of a
    comma. -/
def SpellsOut (text : String) : Prop :=
  "POINT".toList <+: Text.trim text.toList ∨ ',' ∈ Text.trim text.toList

theorem isFinite_ofText {text : String} {point : GeoPoint} (read : ofText? text = some point)
    (short : ¬ SpellsOut text) : point.IsFinite := by
  obtain ⟨noWord, noComma⟩ := not_or.mp short
  unfold ofText? at read
  split at read
  next rest signs => exact absurd (signs ▸ List.prefix_append "POINT".toList rest) noWord
  next =>
    have uncut : (Text.trim text.toList).dropWhile (· ≠ ',') = [] := by
      rw [List.dropWhile_eq_nil_iff]
      exact fun c inside => decide_eq_true fun same => noComma (same ▸ inside)
    rw [uncut] at read
    exact isFinite_ofGeohash read

theorem spellsOut_of_ofJson {value : Json} (sound : value.Sound) {point : GeoPoint}
    (read : ofJson value = .ok point) (beyond : ¬ point.IsFinite) :
    ∃ text, value = .str text ∧ SpellsOut text := by
  rw [ofJson_eq_ok] at read
  cases value with
  | str text => exact ⟨text, rfl, by_contra fun short => beyond (isFinite_ofText read short)⟩
  | arr items => exact absurd (isFinite_ofCoordinates (fun _ => sound.item) read) beyond
  | obj members => exact absurd (isFinite_ofMembers sound read) beyond
  | null | bool | int | float => cases read

end GeoPoint

/-! ## Leaves of documents -/

/-- What becomes of the leaves that a value states when they are written. -/
structure Rereads (value : Json) : Prop where
  boolean : ∀ (style : BooleanStyle) leaf, style.ofJson value = .ok leaf →
    ReadsBack style.ofJson style.toJson leaf
  binary : ∀ leaf, Binary.ofJson value = .ok leaf → ReadsBack Binary.ofJson Binary.toJson leaf
  aggregate : ∀ leaf, Aggregate.ofJson value = .ok leaf →
    ReadsBack Aggregate.ofJson Aggregate.toJson leaf
  point : ∀ leaf, GeoPoint.ofJson value = .ok leaf →
    (ReadsBack GeoPoint.ofJson GeoPoint.toJson leaf ↔ leaf.IsFinite)
  /-- Points that are lost come from texts with their coordinates in them. -/
  beyond : ∀ leaf, GeoPoint.ofJson value = .ok leaf → ¬ leaf.IsFinite →
    (∃ text, value = .str text ∧ GeoPoint.SpellsOut text) ∧
      GeoPoint.ofJson leaf.toJson = .error ⟨leaf.toJson.text, GeoPoint.accepted, "GeoPoint"⟩

theorem leaves_read_back {value : Json} (sound : value.Sound) : Rereads value where
  boolean := fun style leaf _ => readsBack_iff.mpr (style.ofJson_toJson leaf)
  binary := fun _ read => readsBack_iff.mpr (Binary.ofJson_toJson read)
  aggregate := fun _ read =>
    readsBack_iff.mpr (Aggregate.ofJson_toJson (Aggregate.writable_ofJson sound read))
  point := fun _ _ => readsBack_iff.trans GeoPoint.ofJson_toJson_iff
  beyond := fun _ read beyond =>
    ⟨GeoPoint.spellsOut_of_ofJson sound read beyond, GeoPoint.ofJson_toJson_eq_error beyond⟩

theorem sample_leaves_read_back :
    (Json.arr [.int 1, .int 2, .int 3, .int 4]).Sound ∧
      (∃ aggregate, Aggregate.ofJson (.arr [.int 1, .int 2, .int 3, .int 4]) = .ok aggregate ∧
        ReadsBack Aggregate.ofJson Aggregate.toJson aggregate) ∧
      ∃ point, GeoPoint.ofJson (.arr [.int 1, .int 2, .int 3, .int 4]) = .ok point ∧
        ReadsBack GeoPoint.ofJson GeoPoint.toJson point := by
  have sound : (Json.arr [.int 1, .int 2, .int 3, .int 4]).Sound := by
    refine .arr ?_
    simp only [List.forall_mem_cons]
    refine ⟨.int ?_ ?_, .int ?_ ?_, .int ?_ ?_, .int ?_ ?_, List.forall_mem_nil _⟩ <;> decide
  have rereads := leaves_read_back sound
  have aggregate : Aggregate.ofJson (.arr [.int 1, .int 2, .int 3, .int 4]) =
      .ok ⟨some (.ofInt 1), some (.ofInt 2), some (.ofInt 3), some 4⟩ := rfl
  have point : GeoPoint.ofJson (.arr [.int 1, .int 2, .int 3, .int 4]) =
      .ok ⟨.ofInt 2, .ofInt 1⟩ := rfl
  have one : (Json.int 1).Sound := .int (by decide) (by decide)
  have two : (Json.int 2).Sound := .int (by decide) (by decide)
  have finite : GeoPoint.IsFinite ⟨.ofInt 2, .ofInt 1⟩ := ⟨two.double rfl, one.double rfl⟩
  exact ⟨sound, ⟨_, aggregate, rereads.aggregate _ aggregate⟩,
    ⟨_, point, (rereads.point _ point).mpr finite⟩⟩

/-- A latitude beyond the doubles is read as infinite, and written as nothing. -/
theorem sample_point_is_lost :
    (Json.str "1e999,0").Sound ∧
      GeoPoint.ofJson (.str "1e999,0") = .ok ⟨.infinite false, .zero false⟩ ∧
      ¬ ReadsBack GeoPoint.ofJson GeoPoint.toJson ⟨.infinite false, .zero false⟩ := by
  refine ⟨.str _, GeoPoint.ofJson_eq_ok.mpr (by decide +kernel), fun back => ?_⟩
  obtain ⟨⟨negative, mantissa, exponent, same⟩, -⟩ :=
    GeoPoint.ofJson_toJson_iff.mp (readsBack_iff.mp back)
  cases same

end Leaf

end StoreSchema
