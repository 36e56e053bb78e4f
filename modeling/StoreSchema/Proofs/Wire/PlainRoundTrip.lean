import StoreSchema.Proofs.Wire.Canonical
import StoreSchema.Proofs.Wire.PlainReading
import StoreSchema.Proofs.Wire.Rendering

/-! # Plain documents through wire records

A plain document that is read into a wire record and written from it comes out in canonical form,
and documents in that form come out as they went in.
-/

namespace StoreSchema

namespace Forest

variable {forest : Forest} {path type : String} {member : Member}

/-! ## Returning documents -/

/-- A record of a type is written as the canonical form of a document, which is canonical. -/
structure PlainReturns (forest : Forest) (type : String) (plain : Json) (record : WireRecord) :
    Prop where
  rendered : forest.render forest.plain type record = .ok (forest.canonical type plain)
  canonical : forest.IsCanonical type (forest.canonical type plain)

/-- Values of a type are written as the canonical forms of items, which are canonical. -/
structure ItemsReturn (forest : Forest) (type : String) (items : List Json)
    (values : List WireValue) : Prop where
  rendered : renderValues forest forest.plain (some type) values =
    .ok (canonicalItems forest type items)
  canonical : ∀ item ∈ canonicalItems forest type items, forest.IsCanonical type item

theorem renderMember_present {record : WireRecord} {values : List WireValue} {items : List Json}
    (slot : record.lookup member.name = some (.present values))
    (rendered : renderValues forest forest.plain member.child? values = .ok items) {plain : Json}
    (formed : plainForm member.form (forest.zeroOf member.element) (.present items) = .ok plain) :
    renderMember forest forest.plain record member = .ok [(member.name, plain)] := by
  rw [renderMember, slot, Option.getD_some, renderSlot, rendered]
  simp only [Outcome.ok_bind, pure, Except.pure, Forest.plain, formed]

theorem plainForm_one {form : Form} (single : form.isSingle) (zero : Except WireFault Json)
    (value : Json) : plainForm form zero (.present [value]) = .ok value := by
  cases form with
  | value | optionalValue => rfl
  | list | optionalList => cases single

theorem plainForm_many {form : Form} (multiple : form.isSingle = false)
    (zero : Except WireFault Json) (values : List Json) :
    plainForm form zero (.present values) = .ok (.arr values) := by
  cases form with
  | value | optionalValue => cases multiple
  | list | optionalList => rfl

theorem plainForm_absent {form : Form} (optional : form.isRequired = false)
    (zero : Except WireFault Json) : plainForm form zero .undefined = .ok .null := by
  cases form with
  | value | list => cases optional
  | optionalValue | optionalList => rfl

/-! ## Members -/

/-- A member is written as the canonical form of what was read, which is canonical. -/
structure MemberReturns (forest : Forest) (record : WireRecord) (member : Member) (raw : Json) :
    Prop where
  rendered : renderMember forest forest.plain record member =
    .ok [(member.name, canonicalValue forest member.child? raw)]
  canonical : forest.IsCanonicalValue member.child? (canonicalValue forest member.child? raw)

theorem absent_returns_plain {record : WireRecord} (optional : member.form.isRequired = false)
    (absent : record.lookup member.name = none) :
    forest.MemberReturns record member .null := by
  constructor
  · rw [renderMember, absent, Option.getD_none, renderSlot, Outcome.ok_bind, canonicalValue_null]
    simp only [Forest.plain, plainForm_absent optional, Outcome.ok_bind]
    rfl
  · rw [canonicalValue_null]
    cases member.child? with
    | none => exact .leaf
    | some type => exact .null

theorem one_returns_plain {record : WireRecord} {raw : Json} {value : WireValue}
    (single : member.form.isSingle) (slot : record.lookup member.name = some (.present [value]))
    (read : ofPlainValue forest path member.child? raw = .ok value)
    (returns : ∀ type below, ofPlainAt forest path type raw = .ok below →
      forest.PlainReturns type raw below) :
    forest.MemberReturns record member raw := by
  cases child : member.child? with
  | none =>
      rw [child, ofPlainValue] at read
      cases read
      have rendered := renderValues_leaves forest forest.plain member.child? [raw]
      have written := renderMember_present slot rendered (plainForm_one single _ raw)
      constructor
      · rw [written, child, canonicalValue]
      · rw [child]
        exact .leaf
  | some type =>
      rw [child, ofPlainValue] at read
      obtain ⟨below, belowRead, read⟩ := Outcome.bind_eq_ok.mp read
      cases Outcome.pure_eq_ok.mp read
      obtain ⟨belowRendered, canonical⟩ := returns type below belowRead
      -- Only an object is read as a record, so the value is no list of records.
      have same : canonicalValue forest (some type) raw = forest.canonical type raw := by
        cases ofPlainAt_ok belowRead <;> rw [canonicalValue] <;> simp
      have rendered : renderValues forest forest.plain member.child? [.record below] =
          .ok [forest.canonical type raw] := by
        rw [child, renderValues, belowRendered, renderValues]
        rfl
      have written := renderMember_present slot rendered (plainForm_one single _ _)
      constructor
      · rw [written, child, same]
      · rw [child, same]
        exact .one canonical

theorem many_returns_plain {record : WireRecord} {items : List Json} {values : List WireValue}
    (multiple : member.form.isSingle = false)
    (slot : record.lookup member.name = some (.present values))
    (read : ofPlainItems forest path member.child? items = .ok values)
    (returns : ∀ type, ofPlainItems forest path (some type) items = .ok values →
      forest.ItemsReturn type items values) :
    forest.MemberReturns record member (.arr items) := by
  cases child : member.child? with
  | none =>
      rw [child] at read
      cases ofPlainItems_leaves read
      have rendered := renderValues_leaves forest forest.plain member.child? items
      have written := renderMember_present slot rendered (plainForm_many multiple _ items)
      constructor
      · rw [written, child, canonicalValue]
      · rw [child]
        exact .leaf
  | some type =>
      rw [child] at read
      obtain ⟨itemsRendered, canonical⟩ := returns type read
      have rendered : renderValues forest forest.plain member.child? values =
          .ok (canonicalItems forest type items) := by rw [child, itemsRendered]
      have written := renderMember_present slot rendered (plainForm_many multiple _ _)
      constructor
      · rw [written, child, canonicalValue]
      · rw [child, canonicalValue]
        exact .many canonical

theorem member_returns_plain {record : WireRecord} {raw : Json} {slot : Slot WireValue}
    (read : SlotRead forest path member raw slot)
    (held : record.lookup member.name = if slot.isUndefined then none else some slot)
    (one : ∀ type below, ofPlainAt forest path type raw = .ok below →
      forest.PlainReturns type raw below)
    (many : ∀ type items values, raw = .arr items →
      ofPlainItems forest path (some type) items = .ok values →
        forest.ItemsReturn type items values) :
    forest.MemberReturns record member raw := by
  cases read with
  | absent optional => exact absent_returns_plain optional held
  | one single valueRead => exact one_returns_plain single held valueRead one
  | @many items values multiple valuesRead =>
      exact many_returns_plain multiple held valuesRead fun type => many type items values rfl

/-! ## Open maps -/

theorem openOfPlain_eq (entries : List (String × Json)) :
    openOfPlain entries = (Keyed.table entries).map fun entry => (entry.1, openSlot entry.2) := by
  rw [Keyed.map_table, Keyed.table, List.foldl_map, openOfPlain]

theorem openSlot_eq (raw : Json) :
    ∃ items : List Json, openSlot raw = .present (items.map .leaf) ∧ raw.listed = .arr items := by
  cases raw with
  | arr items => exact ⟨items, rfl, rfl⟩
  | null | bool _ | int _ | float _ | str _ | obj _ => exact ⟨[_], rfl, rfl⟩

theorem renderEntries_openSlot (entries : List (String × Json)) :
    renderEntries forest forest.plain (entries.map fun entry => (entry.1, openSlot entry.2)) =
      .ok (entries.map fun entry => (entry.1, entry.2.listed)) := by
  induction entries with
  | nil => rw [List.map_nil, renderEntries, List.map_nil]
  | cons entry rest ih =>
      obtain ⟨key, raw⟩ := entry
      obtain ⟨items, slot, listed⟩ := openSlot_eq raw
      rw [List.map_cons, List.map_cons, slot, listed, renderEntries, renderSlot,
        renderValues_leaves, ih]
      rfl

theorem openMap_returns_plain {definition : Definition}
    (found : forest.find? type = some definition) (body : definition.body = .openMap)
    (entries : List (String × Json)) :
    forest.PlainReturns type (.obj entries) (openOfPlain entries) := by
  have form := canonical_openMap found body entries
  constructor
  · rw [render, definition_ok found, form]
    simp only [body]
    rw [openOfPlain_eq, renderEntries_openSlot]
    rfl
  · rw [form]
    refine .openMap found body ?_ fun value inside => ?_
    · rw [List.map_map]
      exact (Keyed.table_ascending entries).nodup
    · rw [List.map_map] at inside
      obtain ⟨entry, -, rfl⟩ := List.mem_map.mp inside
      exact Json.listed_listed entry.2

/-! ## Records -/

theorem record_returns_plain {definition : Definition} {members : List Member}
    {entries : List (String × Json)} {record : WireRecord}
    (found : forest.find? type = some definition) (body : definition.body = .record members)
    (once : (members.map Member.name).Nodup)
    (each : ∀ member ∈ members,
      forest.MemberReturns record member ((entries.lookup member.name).getD .null)) :
    forest.PlainReturns type (.obj entries) record := by
  have form := canonical_record found body entries
  constructor
  · rw [render, definition_ok found, form]
    simp only [body]
    rw [renderMembers_ok fun member inside => (each member inside).rendered, List.map_eq_flatMap]
    rfl
  · rw [form]
    refine .record found body (by simp) fun member inside value held => ?_
    rw [lookup_members once _ inside] at held
    cases held
    exact (each member inside).canonical

theorem nil_returns_plain : forest.ItemsReturn type [] [] := by
  constructor
  · rw [renderValues, canonicalItems]
  · rw [canonicalItems]
    simp

theorem cons_returns_plain {item : Json} {rest : List Json} {record : WireRecord}
    {values : List WireValue} (first : forest.PlainReturns type item record)
    (later : forest.ItemsReturn type rest values) :
    forest.ItemsReturn type (item :: rest) (.record record :: values) := by
  constructor
  · rw [renderValues, canonicalItems, first.rendered, later.rendered]
    rfl
  · rw [canonicalItems]
    exact List.forall_mem_cons.mpr ⟨first.canonical, later.canonical⟩

section

variable {config : Config} {root : String} {properties : Properties}

mutual

theorem ofPlainAt_returns (ordered : properties.Ordered)
    (compiled : Forest.ofProperties config root properties = .ok forest) (path type : String)
    (plain : Json) {record : WireRecord} (read : ofPlainAt forest path type plain = .ok record) :
    forest.PlainReturns type plain record := by
  match plain, record, ofPlainAt_ok read with
  | .obj entries, _, .openMap found body => exact openMap_returns_plain found body entries
  | .obj entries, _, @RecordRead.record _ _ _ _ members _ _ found body membersRead =>
      have once := names_nodup ordered compiled (List.mem_of_find?_eq_some found) body
      refine record_returns_plain found body once fun member inside => ?_
      obtain ⟨slot, slotRead, held⟩ := (ofPlainMembers_ok once membersRead).2 member inside
      refine member_returns_plain (ofPlainSlot_ok slotRead) held ?_ ?_
      · intro child below belowRead
        cases value : entries.lookup member.name with
        | none =>
            rw [value] at belowRead
            cases ofPlainAt_ok belowRead
        | some raw =>
            have smaller := Keyed.sizeOf_lt_of_lookup value
            rw [value] at belowRead
            exact ofPlainAt_returns ordered compiled _ child raw belowRead
      · intro child items values list itemsRead
        cases value : entries.lookup member.name with
        | none =>
            rw [value] at list
            cases list
        | some raw =>
            rw [value, Option.getD_some] at list
            have smaller : sizeOf items < sizeOf entries := by
              have listSmaller := Keyed.sizeOf_lt_of_lookup value
              rw [list, Json.arr.sizeOf_spec] at listSmaller
              omega
            exact ofPlainItems_return ordered compiled _ child items itemsRead
termination_by sizeOf plain

theorem ofPlainItems_return (ordered : properties.Ordered)
    (compiled : Forest.ofProperties config root properties = .ok forest) (path type : String)
    (items : List Json) {values : List WireValue}
    (read : ofPlainItems forest path (some type) items = .ok values) :
    forest.ItemsReturn type items values := by
  match items with
  | [] =>
      rw [ofPlainItems] at read
      cases read
      exact nil_returns_plain
  | item :: rest =>
      rw [ofPlainItems, ofPlainValue] at read
      obtain ⟨value, valueRead, read⟩ := Outcome.bind_eq_ok.mp read
      obtain ⟨record, recordRead, valueRead⟩ := Outcome.bind_eq_ok.mp valueRead
      obtain ⟨others, othersRead, read⟩ := Outcome.bind_eq_ok.mp read
      cases Outcome.pure_eq_ok.mp valueRead
      cases Outcome.pure_eq_ok.mp read
      exact cons_returns_plain (ofPlainAt_returns ordered compiled path type item recordRead)
        (ofPlainItems_return ordered compiled path type rest othersRead)
termination_by sizeOf items

end

end

end Forest

/-- A plain document that is read comes out in canonical form, and as it was if it was in that
    form, up to the order of keys. -/
theorem toPlain_ofPlain {config : Config} {root : String} {properties : Properties}
    {forest : Forest} (ordered : properties.Ordered)
    (compiled : Forest.ofProperties config root properties = .ok forest) {type : String}
    {plain : Json} {record : WireRecord} (read : forest.ofPlain type plain = .ok record) :
    forest.toPlain type record = .ok (forest.canonical type plain) ∧
      forest.IsCanonical type (forest.canonical type plain) ∧
      (forest.IsCanonical type plain → (forest.canonical type plain).Same plain) := by
  have returns := Forest.ofPlainAt_returns ordered compiled "" type plain read
  exact ⟨returns.rendered, returns.canonical, fun canonical =>
    canonical.stays ordered compiled type plain⟩

namespace Sample

/-- The keys of an open map, out of order and not all with lists. -/
def extraEntries : List (String × Json) :=
  [("one", .bool true), ("none", .null), ("many", .arr [])]

theorem extraEntries_table :
    Keyed.table extraEntries = [("many", .arr []), ("none", .null), ("one", .bool true)] := by
  with_unfolding_all rfl

/-- A manager with a key that is not declared. -/
def plain : Json :=
  .obj [("manager", .obj [("extra", .arr [.obj extraEntries]), ("name", .str "Ann")])]

def plainRecord : WireRecord :=
  [("manager", .present [.record
     [("extra", .present [.record
        [("many", .present []), ("none", .present [.leaf .null]),
         ("one", .present [.leaf (.bool true)])]])]])]

theorem plain_read : forest.ofPlain "Doc" plain = .ok plainRecord := by
  have table := Forest.openOfPlain_eq extraEntries
  rw [extraEntries_table] at table
  simp [Forest.ofPlain, Forest.ofPlainAt, Forest.definition, Forest.find?, forest, doc, load,
    manager, extra, Compile.openDefinition, plain, Forest.ofPlainMembers_cons,
    Forest.ofPlainMembers, Forest.ofPlainSlot, Forest.ofPlainItems, Forest.ofPlainValue,
    List.lookup_cons, Forest.absentSlot, Forest.addSlot, Form.isSingle,
    Member.child?, table, Forest.openSlot, Keyed.insert, Slot.isUndefined, plainRecord, pure,
    Except.pure]

/-- What comes out has every declared member, and lists in the open map. -/
def canonicalPlain : Json :=
  .obj
    [("load", .null),
     ("manager", .obj
       [("age", .null),
        ("extra", .arr [.obj
           [("many", .arr []), ("none", .arr [.null]), ("one", .arr [.bool true])]])])]

theorem plain_canonical : forest.canonical "Doc" plain = canonicalPlain := by
  simp [Forest.canonical, Forest.find?, forest, doc, load, manager, extra, Compile.openDefinition,
    plain, Forest.canonicalMembers_eq, Forest.canonicalValue, Forest.canonicalItems,
    List.lookup_cons, Member.child?, extraEntries_table, Json.listed, canonicalPlain]

end Sample

theorem sample_toPlain_ofPlain :
    Sample.forest.toPlain "Doc" Sample.plainRecord = .ok Sample.canonicalPlain ∧
      Sample.forest.IsCanonical "Doc" Sample.canonicalPlain := by
  have returned :=
    toPlain_ofPlain (Mapping.ofJson_placed Sample.mapped).1 Sample.compiled Sample.plain_read
  rw [Sample.plain_canonical] at returned
  exact ⟨returned.1, returned.2.1⟩

end StoreSchema
