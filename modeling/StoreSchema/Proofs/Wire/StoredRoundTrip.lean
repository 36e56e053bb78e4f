import StoreSchema.Proofs.Types.Forests
import StoreSchema.Proofs.Wire.Conforming
import StoreSchema.Proofs.Wire.Rendering
import StoreSchema.Wire.Decode

/-! # Storing and reading back

A wire record that conforms to a type of a forest is stored as a document, and reading the document
gives the record back: `null`, no values, one value and many stay apart in slots of records and of
open maps alike. Only slots that are missing leave no trace.
-/

namespace StoreSchema

namespace Forest

variable {forest : Forest} {path : String} {member : Member}

/-! ## Reading slots -/

/-- The values of a list: leaves as they stand, or records of a type. -/
def readItems (forest : Forest) (path : String) (child : Option String) (items : List Json) :
    Except WireFault (List WireValue) :=
  match child with
  | none => .ok (items.map .leaf)
  | some type => decodeItems forest path type items

theorem not_isLeafList (notVector : member.kind ≠ .denseVector) (raw : Json) :
    isLeafList member.kind raw = false := by
  simp [isLeafList, notVector]

theorem decodeSlot_null (notVector : member.kind ≠ .denseVector) :
    decodeSlot forest path member .null = .ok .null := by
  rw [decodeSlot, not_isLeafList notVector]
  cases member.child? <;> rfl

theorem decodeSlot_arr (notVector : member.kind ≠ .denseVector) {items : List Json}
    {values : List WireValue} (read : readItems forest path member.child? items = .ok values) :
    decodeSlot forest path member (.arr items) = .ok (.present values) := by
  rw [decodeSlot, not_isLeafList notVector]
  cases child : member.child? with
  | none =>
      rw [child, readItems] at read
      cases read
      rfl
  | some type =>
      rw [child, readItems] at read
      simp only [Bool.false_eq_true, if_false, read, Outcome.ok_bind]
      rfl

theorem decodeSlot_bare (notVector : member.kind ≠ .denseVector) {raw : Json} (bare : raw.isBare)
    {values : List WireValue} (read : readItems forest path member.child? [raw] = .ok values) :
    decodeSlot forest path member raw = .ok (.present values) := by
  rw [decodeSlot, not_isLeafList notVector]
  cases child : member.child? with
  | none =>
      rw [child, readItems] at read
      cases read
      cases raw with
      | null | arr _ => cases bare
      | bool _ | int _ | float _ | str _ | obj _ => rfl
  | some type =>
      rw [child, readItems, decodeItems] at read
      obtain ⟨record, decoded, rest⟩ := Outcome.bind_eq_ok.mp read
      rw [decodeItems] at rest
      cases rest
      cases raw with
      | null | arr _ => cases bare
      | bool _ | int _ | float _ | str _ | obj _ =>
          simp only [Bool.false_eq_true, if_false, decoded]
          rfl

theorem decodeSlot_toJson (notVector : member.kind ≠ .denseVector) (cardinality : Cardinality)
    {items : List Json} (bare : ∀ item ∈ items, item.isBare) {values : List WireValue}
    (read : readItems forest path member.child? items = .ok values) :
    decodeSlot forest path member ((Slot.present items).toJson cardinality) =
      .ok (.present values) := by
  match items, cardinality with
  | [], _ => exact decodeSlot_arr notVector read
  | [item], .array => exact decodeSlot_arr notVector read
  | [item], .single => exact decodeSlot_bare notVector (bare item List.mem_cons_self) read
  | _ :: _ :: _, _ => exact decodeSlot_arr notVector read

/-! ## Reading members -/

/-- The slot of a member, if there is a value under its name. -/
def readMember (forest : Forest) (path : String) (entries : List (String × Json))
    (member : Member) : Except WireFault (Option (Slot WireValue)) :=
  match entries.lookup member.name with
  | none => .ok none
  | some raw => (decodeSlot forest (WireFault.below path member.name) member raw).map some

theorem decodeMembers_read {entries : List (String × Json)} {rest : List Member}
    {slot : Option (Slot WireValue)}
    (first : readMember forest path entries member = .ok slot) :
    decodeMembers forest path entries (member :: rest) =
      (decodeMembers forest path entries rest).map fun record =>
        slot.elim record (Keyed.insert member.name · record) := by
  rw [decodeMembers]
  unfold readMember at first
  split
  next absent =>
    rw [absent] at first
    cases first
    cases decodeMembers forest path entries rest <;> rfl
  next raw found =>
    simp only [found] at first
    cases decoded : decodeSlot forest (WireFault.below path member.name) member raw with
    | error fault =>
        rw [decoded] at first
        cases first
    | ok value =>
        rw [decoded] at first
        cases first
        cases decodeMembers forest path entries rest <;> rfl

theorem decodeMembers_cons {entries : List (String × Json)} {rest : List Member}
    {slot : Option (Slot WireValue)} {record : WireRecord}
    (first : readMember forest path entries member = .ok slot)
    (later : decodeMembers forest path entries rest = .ok record) :
    decodeMembers forest path entries (member :: rest) =
      .ok (slot.elim record (Keyed.insert member.name · record)) := by
  rw [decodeMembers_read first, later]
  rfl

theorem decodeMembers_total {entries : List (String × Json)} {members : List Member}
    (each : ∀ member ∈ members, ∃ slot, readMember forest path entries member = .ok slot) :
    ∃ record, decodeMembers forest path entries members = .ok record := by
  induction members with
  | nil => exact ⟨[], by rw [decodeMembers]⟩
  | cons member rest ih =>
      obtain ⟨⟨slot, first⟩, later⟩ := List.forall_mem_cons.mp each
      obtain ⟨record, read⟩ := ih later
      exact ⟨_, decodeMembers_cons first read⟩

theorem decodeMembers_ok {entries : List (String × Json)} {members : List Member}
    {record : WireRecord} (ascending : Keyed.Ascending record)
    (declared : ∀ name ∈ record.map Prod.fst, name ∈ members.map Member.name)
    (each : ∀ member ∈ members,
      readMember forest path entries member = .ok (record.lookup member.name)) :
    decodeMembers forest path entries members = .ok record := by
  have read : ∃ found, decodeMembers forest path entries members = .ok found ∧
      Keyed.Ascending found ∧ ∀ name, found.lookup name =
        if name ∈ members.map Member.name then record.lookup name else none := by
    clear declared
    induction members with
    | nil => exact ⟨[], by rw [decodeMembers], .nil, fun name => by simp⟩
    | cons member rest ih =>
        obtain ⟨first, restEach⟩ := List.forall_mem_cons.mp each
        obtain ⟨found, later, foundAscending, slots⟩ := ih restEach
        refine ⟨_, decodeMembers_cons first later, ?_, fun name => ?_⟩
        · cases record.lookup member.name with
          | none => exact foundAscending
          | some slot => exact foundAscending.insert member.name slot
        · by_cases own : name = member.name
          · subst own
            cases slot : record.lookup member.name with
            | none => simp [slots, slot]
            | some value => simp [Keyed.lookup_insert]
          · cases record.lookup member.name with
            | none => simp [slots, own]
            | some value => simp [Keyed.lookup_insert, slots, own]
  obtain ⟨found, ok, foundAscending, slots⟩ := read
  rw [ok, foundAscending.ext ascending fun name => ?_]
  rw [slots]
  split
  next => rfl
  next undeclared =>
    exact (Keyed.lookup_eq_none_of_not_mem fun member => undeclared (declared name member)).symm

theorem readMember_congr {left right : List (String × Json)}
    (same : left.lookup member.name = right.lookup member.name) :
    readMember forest path left member = readMember forest path right member := by
  rw [readMember, readMember, same]

/-! ## Returning values and records -/

/-- Values come back: they are written as items that stand for themselves, which are read as the
    values without missing slots. -/
def ValuesReturn (forest : Forest) (child : Option String) (values : List WireValue) : Prop :=
  ∃ items, renderValues forest stored child values = .ok items ∧ (∀ item ∈ items, item.isBare) ∧
    ∀ path, readItems forest path child items = .ok (WireValue.definedAll values)

/-- A record comes back: it is written as an object, which is read as the record without missing
    slots. -/
def RecordReturns (forest : Forest) (type : String) (record : WireRecord) : Prop :=
  ∃ entries, forest.render stored type record = .ok (.obj entries) ∧
    ∀ path, forest.decodeAt path type (.obj entries) = .ok (WireRecord.defined record)

theorem leaves_return {values : List WireValue} (fits : ∀ value ∈ values, forest.Fits none value) :
    forest.ValuesReturn none values := by
  have leaves : ∃ items : List Json, items.map WireValue.leaf = values ∧
      ∀ item ∈ items, item.isBare := by
    induction values with
    | nil => exact ⟨[], rfl, by simp⟩
    | cons value rest ih =>
        obtain ⟨first, later⟩ := List.forall_mem_cons.mp fits
        obtain ⟨items, same, bare⟩ := ih later
        cases first with
        | @leaf item itemBare =>
            exact ⟨item :: items, by rw [List.map_cons, same],
              List.forall_mem_cons.mpr ⟨itemBare, bare⟩⟩
  obtain ⟨items, rfl, bare⟩ := leaves
  exact ⟨items, renderValues_leaves forest stored none items, bare,
    fun path => by rw [readItems, WireValue.definedAll_leaves]⟩

theorem nil_returns (type : String) : forest.ValuesReturn (some type) [] :=
  ⟨[], by rw [renderValues], by simp, fun path => by rw [readItems, decodeItems]; rfl⟩

theorem cons_returns {type : String} {record : WireRecord} {rest : List WireValue}
    (first : forest.RecordReturns type record) (later : forest.ValuesReturn (some type) rest) :
    forest.ValuesReturn (some type) (.record record :: rest) := by
  obtain ⟨entries, rendered, decoded⟩ := first
  obtain ⟨items, renderedRest, bare, read⟩ := later
  refine ⟨.obj entries :: items, ?_, List.forall_mem_cons.mpr ⟨rfl, bare⟩, fun path => ?_⟩
  · rw [renderValues, rendered, renderedRest]
    rfl
  · have readRest : decodeItems forest path type items = .ok (WireValue.definedAll rest) := read path
    rw [readItems, decodeItems, decoded, readRest]
    rfl

/-! ## Slots of records -/

theorem member_returns {record : WireRecord}
    (notVector : member.name ∈ record.map Prod.fst → member.kind ≠ .denseVector)
    (values : ∀ values, record.lookup member.name = some (.present values) →
      forest.ValuesReturn member.child? values) :
    ∃ part, renderMember forest stored record member = .ok part ∧
      (∀ entry ∈ part, entry.1 = member.name) ∧
      ∀ path, readMember forest path part member =
        .ok ((record.lookup member.name).bind Slot.kept) := by
  cases slot : record.lookup member.name with
  | none =>
      refine ⟨[], ?_, by simp, fun path => rfl⟩
      rw [renderMember, slot, Option.getD_none, renderSlot]
      rfl
  | some held =>
      have plainKind := notVector (Keyed.mem_keys_of_lookup slot)
      cases held with
      | undefined =>
          refine ⟨[], ?_, by simp, fun path => rfl⟩
          rw [renderMember, slot, Option.getD_some, renderSlot]
          rfl
      | null =>
          refine ⟨[(member.name, .null)], ?_, by simp, fun path => ?_⟩
          · rw [renderMember, slot, Option.getD_some, renderSlot]
            rfl
          · simp only [readMember, List.lookup_cons_self, decodeSlot_null plainKind]
            rfl
      | present held =>
          obtain ⟨items, rendered, bare, read⟩ := values held slot
          refine ⟨[(member.name, (Slot.present items).toJson member.cardinality)], ?_, by simp,
            fun path => ?_⟩
          · rw [renderMember, slot, Option.getD_some, renderSlot, rendered]
            rfl
          · simp only [readMember, List.lookup_cons_self,
              decodeSlot_toJson plainKind member.cardinality bare (read _)]
            rfl

theorem record_returns {definition : Definition} {members : List Member} {record : WireRecord}
    (found : forest.find? definition.name = some definition)
    (body : definition.body = .record members) (once : (members.map Member.name).Nodup)
    (ascending : Keyed.Ascending record)
    (declared : ∀ name ∈ record.map Prod.fst, name ∈ members.map Member.name)
    (notVector : ∀ member ∈ members, member.name ∈ record.map Prod.fst →
      member.kind ≠ .denseVector)
    (values : ∀ member ∈ members, ∀ values, record.lookup member.name = some (.present values) →
      forest.ValuesReturn member.child? values) :
    forest.RecordReturns definition.name record := by
  let part := fun member => (renderMember forest stored record member).toOption.getD []
  have parts : ∀ member ∈ members, renderMember forest stored record member = .ok (part member) ∧
      (∀ entry ∈ part member, entry.1 = member.name) ∧
      ∀ path, readMember forest path (part member) member =
        .ok ((record.lookup member.name).bind Slot.kept) := by
    intro member inside
    obtain ⟨entries, rendered, own, read⟩ :=
      member_returns (notVector member inside) (values member inside)
    have same : part member = entries := by simp only [part, rendered]; rfl
    exact same ▸ ⟨rendered, own, read⟩
  refine ⟨members.flatMap part, ?_, fun path => ?_⟩
  · rw [render, definition_ok found]
    simp only [body]
    rw [renderMembers_ok fun member inside => (parts member inside).1]
    rfl
  · rw [decodeAt, definition_ok found]
    simp only [body]
    refine decodeMembers_ok (WireRecord.defined_ascending ascending)
      (fun name member => declared name (WireRecord.mem_keys_of_defined member))
      fun member inside => ?_
    rw [readMember_congr (Keyed.lookup_flatMap once (fun other declared => (parts other declared).2.1) inside),
      (parts member inside).2.2, WireRecord.lookup_defined ascending]

/-! ## Slots of open maps -/

theorem ofAny_toJson (cardinality : Cardinality) {items : List Json}
    (bare : ∀ item ∈ items, item.isBare) :
    Slot.ofAny ((Slot.present items).toJson cardinality) = .present items := by
  match items, cardinality with
  | [], _ | [_], .array | _ :: _ :: _, _ => rfl
  | [item], .single =>
      have itemBare := bare item List.mem_cons_self
      cases item with
      | null | arr _ => cases itemBare
      | bool _ | int _ | float _ | str _ | obj _ => rfl

theorem entries_return {record : WireRecord}
    (values : ∀ entry ∈ record, ∀ values, entry.2 = .present values →
      forest.ValuesReturn none values) :
    ∃ entries, renderEntries forest stored record = .ok entries ∧
      entries.map (fun entry => (entry.1, (Slot.ofAny entry.2).map WireValue.leaf)) =
        WireRecord.defined record := by
  induction record with
  | nil => exact ⟨[], by rw [renderEntries], rfl⟩
  | cons entry rest ih =>
      obtain ⟨key, slot⟩ := entry
      obtain ⟨first, later⟩ := List.forall_mem_cons.mp values
      obtain ⟨entries, rendered, read⟩ := ih later
      rw [WireRecord.defined_cons, ← read]
      cases slot with
      | undefined =>
          refine ⟨entries, ?_, rfl⟩
          rw [renderEntries, renderSlot, rendered]
          rfl
      | null =>
          refine ⟨(key, .null) :: entries, ?_, rfl⟩
          rw [renderEntries, renderSlot, rendered]
          rfl
      | present held =>
          obtain ⟨items, renderedItems, bare, reread⟩ := first held rfl
          have same : items.map WireValue.leaf = WireValue.definedAll held :=
            Except.ok.inj (reread "")
          refine ⟨(key, (Slot.present items).toJson .single) :: entries, ?_, ?_⟩
          · rw [renderEntries, renderSlot, renderedItems, rendered]
            rfl
          · rw [List.map_cons, ofAny_toJson .single bare, Slot.map, same]
            rfl

theorem openMap_returns {definition : Definition} {record : WireRecord}
    (found : forest.find? definition.name = some definition) (body : definition.body = .openMap)
    (ascending : Keyed.Ascending record)
    (values : ∀ entry ∈ record, ∀ values, entry.2 = .present values →
      forest.ValuesReturn none values) :
    forest.RecordReturns definition.name record := by
  obtain ⟨entries, rendered, read⟩ := entries_return values
  refine ⟨entries, ?_, fun path => ?_⟩
  · rw [render, definition_ok found]
    simp only [body, rendered]
    rfl
  · rw [decodeAt, definition_ok found]
    simp only [body]
    have table : openRecord entries = Keyed.table (WireRecord.defined record) := by
      rw [← read, Keyed.table, List.foldl_map, openRecord]
    rw [table, Keyed.table_of_ascending (WireRecord.defined_ascending ascending)]

/-! ## Whole records -/

section

variable {config : Config} {root : String} {properties : Properties}

mutual

/-- A record that conforms to a definition of a compiled forest comes back. -/
theorem Conforms.returns (ordered : properties.Ordered)
    (compiled : Forest.ofProperties config root properties = .ok forest) {definition : Definition}
    (inside : definition ∈ forest.types) (record : WireRecord)
    (conforms : forest.Conforms definition record) :
    forest.RecordReturns definition.name record := by
  have found := find?_eq_some compiled inside
  cases conforms with
  | openMap body ascending values =>
      refine openMap_returns found body ascending fun entry present held same => ?_
      refine leaves_return fun value member => ?_
      exact values entry.2 (List.mem_map_of_mem present) value (same ▸ member)
  | @record _ _ members body ascending declared notVector values =>
      have once := names_nodup ordered compiled inside body
      refine record_returns found body once ascending declared notVector
        fun member present held slot => ?_
      have smaller : sizeOf held < sizeOf record := by
        have slotSmaller := Keyed.sizeOf_lt_of_lookup slot
        simp only [Slot.present.sizeOf_spec] at slotSmaller
        omega
      exact Fits.return ordered compiled member.child? held (values member present _ slot)
termination_by sizeOf record

theorem Fits.return (ordered : properties.Ordered)
    (compiled : Forest.ofProperties config root properties = .ok forest) (child : Option String)
    (values : List WireValue) (fits : ∀ value ∈ values, forest.Fits child value) :
    forest.ValuesReturn child values := by
  match child, values with
  | none, values => exact leaves_return fits
  | some type, [] => exact nil_returns type
  | some type, value :: rest =>
      obtain ⟨first, later⟩ := List.forall_mem_cons.mp fits
      cases first with
      | @record child members inside conforms =>
          exact cons_returns (Conforms.returns ordered compiled inside members conforms)
            (Fits.return ordered compiled (some child.name) rest later)
termination_by sizeOf values

end

end

end Forest

/-- What is stored can be read: a conforming record is written, and reading what was written gives
    the record without its missing slots. Fields are in order in every mapping that was read. -/
theorem decode_encode {config : Config} {root : String} {properties : Properties} {forest : Forest}
    (ordered : properties.Ordered)
    (compiled : Forest.ofProperties config root properties = .ok forest) {definition : Definition}
    (inside : definition ∈ forest.types) {record : WireRecord}
    (conforms : forest.Conforms definition record) :
    ∃ document, forest.encode definition.name record = .ok document ∧
      forest.decode definition.name document = .ok (WireRecord.defined record) := by
  obtain ⟨entries, rendered, decoded⟩ := conforms.returns ordered compiled inside record
  exact ⟨.obj entries, rendered, decoded ""⟩

namespace Sample

/-- An open map with no values under one key, `null` under another and one value under the last. -/
def extraRecord : WireRecord :=
  [("none", .present []), ("null", .null), ("one", .present [.leaf (.bool true)])]

/-- A manager of two ages. -/
def managerRecord : WireRecord :=
  [("age", .present [.leaf (.int 1), .leaf (.int 2)]), ("extra", .present [.record extraRecord])]

/-- A document with a manager and no load. -/
def docRecord : WireRecord :=
  [("load", .undefined), ("manager", .present [.record managerRecord])]

theorem extra_conforms : forest.Conforms extra extraRecord := by
  refine .openMap rfl (by decide +kernel) ?_
  have one : forest.Fits none (.leaf (.bool true)) := .leaf rfl
  simp [extraRecord, Slot.toList, Slot.list?, one]

theorem manager_conforms : forest.Conforms manager managerRecord := by
  refine .record rfl (by decide +kernel) (by decide +kernel) (by decide +kernel) ?_
  have inside : extra ∈ forest.types := by simp [forest]
  have first : forest.Fits none (.leaf (.int 1)) := .leaf rfl
  have second : forest.Fits none (.leaf (.int 2)) := .leaf rfl
  have more : forest.Fits (some "Extra") (.record extraRecord) := .record inside extra_conforms
  simp [managerRecord, List.lookup_cons, Member.child?, Slot.toList, Slot.list?, first, second, more]

theorem doc_conforms : forest.Conforms doc docRecord := by
  refine .record rfl (by decide +kernel) (by decide +kernel) (by decide +kernel) ?_
  have inside : manager ∈ forest.types := by simp [forest]
  have head : forest.Fits (some "Manager") (.record managerRecord) :=
    .record inside manager_conforms
  simp [docRecord, List.lookup_cons, Member.child?, Slot.toList, Slot.list?, head]

end Sample

theorem sample_decode_encode :
    ∃ document, Sample.forest.encode "Doc" Sample.docRecord = .ok document ∧
      Sample.forest.decode "Doc" document =
        .ok [("manager", .present [.record Sample.managerRecord])] := by
  have inside : Sample.doc ∈ Sample.forest.types := List.mem_cons_self
  exact decode_encode (Mapping.ofJson_placed Sample.mapped).1 Sample.compiled inside
    Sample.doc_conforms

end StoreSchema
