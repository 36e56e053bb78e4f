import StoreSchema.Proofs.Wire.StoredRoundTrip

/-! # How stored documents are read

What a successful reading says about a record: its slots come from the values under the names of
the members, and they hold leaves where leaves belong and records where records belong.
-/

namespace StoreSchema

/-- The slot of a leaf, where some lists are one leaf. -/
def Slot.ofLeaf (whole : Json → Bool) (raw : Json) : Slot Json :=
  if whole raw then .present [raw] else .ofAny raw

namespace Forest

variable {forest : Forest} {path type : String} {member : Member}

/-! ## Open maps -/

theorem openRecord_eq (entries : List (String × Json)) :
    openRecord entries =
      (Keyed.table entries).map fun entry => (entry.1, (Slot.ofAny entry.2).map .leaf) := by
  refine Eq.trans ?_ (Keyed.map_table (fun raw => (Slot.ofAny raw).map WireValue.leaf) entries).symm
  rw [Keyed.table, List.foldl_map, openRecord]

/-! ## Reading slots and members -/

/-- The ways in which a slot is read: as leaves, or where records belong as a leaf that is a list,
    as `null`, as one record or as many. -/
inductive SlotStored (forest : Forest) (path : String) (member : Member) :
    Json → Slot WireValue → Prop where
  | leaves {raw : Json} (child : member.child? = none) :
      SlotStored forest path member raw
        ((Slot.ofLeaf (isLeafList member.kind) raw).map .leaf)
  | vector {type : String} {raw : Json} (child : member.child? = some type)
      (whole : isLeafList member.kind raw) :
      SlotStored forest path member raw (.present [.leaf raw])
  | null {type : String} (child : member.child? = some type) :
      SlotStored forest path member .null .null
  | one {type : String} {raw : Json} {record : WireRecord} (child : member.child? = some type)
      (read : decodeAt forest path type raw = .ok record) :
      SlotStored forest path member raw (.present [.record record])
  | many {type : String} {items : List Json} {values : List WireValue}
      (child : member.child? = some type)
      (read : decodeItems forest path type items = .ok values) :
      SlotStored forest path member (.arr items) (.present values)

theorem decodeSlot_leaves (child : member.child? = none) (raw : Json) :
    decodeSlot forest path member raw =
      .ok ((Slot.ofLeaf (isLeafList member.kind) raw).map .leaf) := by
  rw [decodeSlot, Slot.ofLeaf, child]
  split
  next => rfl
  next => rfl

theorem decodeSlot_ok {raw : Json} {slot : Slot WireValue}
    (read : decodeSlot forest path member raw = .ok slot) :
    SlotStored forest path member raw slot := by
  cases child : member.child? with
  | none =>
      rw [decodeSlot_leaves child] at read
      cases read
      exact .leaves child
  | some type =>
      rw [decodeSlot] at read
      split at read
      next whole =>
        cases read
        exact .vector child whole
      next =>
        simp only [child] at read
        cases raw with
        | null =>
            cases read
            exact .null child
        | arr items =>
            obtain ⟨values, itemsRead, read⟩ := Outcome.bind_eq_ok.mp read
            cases Outcome.pure_eq_ok.mp read
            exact .many child itemsRead
        | bool _ | int _ | float _ | str _ | obj _ =>
            obtain ⟨record, recordRead, read⟩ := Outcome.bind_eq_ok.mp read
            cases Outcome.pure_eq_ok.mp read
            exact .one child recordRead

/-- A member is read on its own, and its slot put into the record of the others. -/
theorem decodeMembers_step {entries : List (String × Json)} {member : Member}
    {rest : List Member} {record : WireRecord}
    (read : decodeMembers forest path entries (member :: rest) = .ok record) :
    ∃ slot others, readMember forest path entries member = .ok slot ∧
      decodeMembers forest path entries rest = .ok others ∧
        record = slot.elim others (Keyed.insert member.name · others) := by
  rw [decodeMembers] at read
  unfold readMember
  split at read
  next missing => exact ⟨none, record, by rw [missing], read, rfl⟩
  next raw found =>
    simp only [found]
    split at read
    next => cases read
    next slot decoded =>
      obtain ⟨others, othersRead, read⟩ := Outcome.bind_eq_ok.mp read
      cases Outcome.pure_eq_ok.mp read
      exact ⟨some slot, others, by rw [decoded]; rfl, othersRead, rfl⟩

theorem decodeMembers_slots {entries : List (String × Json)} {members : List Member}
    {record : WireRecord} (once : (members.map Member.name).Nodup)
    (read : decodeMembers forest path entries members = .ok record) :
    (∀ name ∉ members.map Member.name, record.lookup name = none) ∧
      ∀ member ∈ members,
        readMember forest path entries member = .ok (record.lookup member.name) := by
  induction members generalizing record with
  | nil =>
      rw [decodeMembers] at read
      cases read
      simp
  | cons member rest ih =>
      obtain ⟨absent, restOnce⟩ := List.nodup_cons.mp once
      obtain ⟨slot, others, first, later, rfl⟩ := decodeMembers_step read
      obtain ⟨undeclared, declared⟩ := ih restOnce later
      have lookup : ∀ name, (slot.elim others (Keyed.insert member.name · others)).lookup name =
          if name = member.name then slot else others.lookup name := by
        intro name
        cases slot with
        | some value => simp [Keyed.lookup_insert]
        | none =>
            by_cases own : name = member.name
            · simp [own, undeclared member.name absent]
            · simp [own]
      refine ⟨?_, List.forall_mem_cons.mpr ⟨?_, ?_⟩⟩
      · intro name outside
        rw [List.map_cons, List.mem_cons, not_or] at outside
        rw [lookup, if_neg outside.1]
        exact undeclared name outside.2
      · rw [lookup, if_pos rfl]
        exact first
      · intro other inside
        have different : other.name ≠ member.name := by
          intro same
          exact absent (same ▸ List.mem_map_of_mem inside)
        rw [lookup, if_neg different]
        exact declared other inside

/-- The ways in which a record is read: from an object, as an open map or member by member. -/
inductive RecordStored (forest : Forest) (path type : String) : Json → WireRecord → Prop where
  | openMap {definition : Definition} {entries : List (String × Json)}
      (found : forest.find? type = some definition) (body : definition.body = .openMap) :
      RecordStored forest path type (.obj entries) (openRecord entries)
  | record {definition : Definition} {members : List Member} {entries : List (String × Json)}
      {record : WireRecord} (found : forest.find? type = some definition)
      (body : definition.body = .record members)
      (read : decodeMembers forest path entries members = .ok record) :
      RecordStored forest path type (.obj entries) record

theorem decodeAt_ok {wire : Json} {record : WireRecord}
    (read : decodeAt forest path type wire = .ok record) :
    RecordStored forest path type wire record := by
  rw [decodeAt, Forest.definition] at read
  cases found : forest.find? type with
  | none => simp [found] at read
  | some definition =>
      simp only [found] at read
      cases wire with
      | null | bool _ | int _ | float _ | str _ | arr _ => cases read
      | obj entries =>
          cases body : definition.body with
          | openMap =>
              simp only [body] at read
              cases read
              exact .openMap found body
          | record members =>
              simp only [body] at read
              exact .record found body read
          | date _ | aggregate _ => simp [body] at read

/-! ## Suiting records -/

mutual

/-- A record has slots that suit a type: leaves of any form in an open map, and in a record what
    suits the members. -/
inductive Suits (forest : Forest) : String → WireRecord → Prop where
  | openMap {type : String} {definition : Definition}
      (found : forest.find? type = some definition) (body : definition.body = .openMap)
      (entries : List (String × Json)) : Suits forest type (openRecord entries)
  | record {type : String} {definition : Definition} {members : List Member}
      {record : WireRecord} (found : forest.find? type = some definition)
      (body : definition.body = .record members)
      (slots : ∀ member ∈ members, ∀ slot, record.lookup member.name = some slot →
        SuitsSlot forest member slot) :
      Suits forest type record

/-- A slot suits a member: it holds leaves that were read, or records that suit the type of the
    records there. -/
inductive SuitsSlot (forest : Forest) : Member → Slot WireValue → Prop where
  | leaves {member : Member} (child : member.child? = none) (raw : Json) :
      SuitsSlot forest member ((Slot.ofLeaf (isLeafList member.kind) raw).map .leaf)
  | vector {member : Member} {type : String} {raw : Json} (child : member.child? = some type)
      (whole : isLeafList member.kind raw) : SuitsSlot forest member (.present [.leaf raw])
  | null {member : Member} {type : String} (child : member.child? = some type) :
      SuitsSlot forest member .null
  | records {member : Member} {type : String} {records : List WireRecord}
      (child : member.child? = some type) (suit : ∀ record ∈ records, Suits forest type record) :
      SuitsSlot forest member (.present (records.map .record))

end

theorem readMember_ok {entries : List (String × Json)} {slot : Slot WireValue}
    (read : readMember forest path entries member = .ok (some slot)) :
    ∃ raw, entries.lookup member.name = some raw ∧
      decodeSlot forest (WireFault.below path member.name) member raw = .ok slot := by
  unfold readMember at read
  split at read
  next => cases read
  next raw found =>
    cases decoded : decodeSlot forest (WireFault.below path member.name) member raw with
    | error fault =>
        rw [decoded] at read
        cases read
    | ok same =>
        rw [decoded] at read
        cases read
        exact ⟨raw, found, decoded⟩

section

variable {config : Config} {root : String} {properties : Properties}

mutual

theorem decodeAt_suits (ordered : properties.Ordered)
    (compiled : Forest.ofProperties config root properties = .ok forest) (path type : String)
    (wire : Json) {record : WireRecord} (read : decodeAt forest path type wire = .ok record) :
    forest.Suits type record := by
  match wire, record, decodeAt_ok read with
  | .obj entries, _, .openMap found body => exact .openMap found body entries
  | .obj entries, record, @RecordStored.record _ _ _ _ members _ _ found body membersRead =>
      have once := names_nodup ordered compiled (List.mem_of_find?_eq_some found) body
      refine .record found body ?_
      intro member inside slot held
      have memberRead := (decodeMembers_slots once membersRead).2 member inside
      rw [held] at memberRead
      obtain ⟨raw, value, slotRead⟩ := readMember_ok memberRead
      have smaller := Keyed.sizeOf_lt_of_lookup value
      cases decodeSlot_ok slotRead with
      | leaves child => exact .leaves child raw
      | vector child whole => exact .vector child whole
      | null child => exact .null child
      | @one type _ below child belowRead =>
          have suits := decodeAt_suits ordered compiled _ type raw belowRead
          have suit : forest.SuitsSlot member (.present ([below].map .record)) :=
            .records child (by simpa using suits)
          exact suit
      | @many type items _ child itemsRead =>
          have itemsSmaller : sizeOf items < sizeOf entries := by
            rw [Json.arr.sizeOf_spec] at smaller
            omega
          obtain ⟨records, rfl, suit⟩ :=
            decodeItems_suit ordered compiled _ type items itemsRead
          exact .records child suit
termination_by sizeOf wire

theorem decodeItems_suit (ordered : properties.Ordered)
    (compiled : Forest.ofProperties config root properties = .ok forest) (path type : String)
    (items : List Json) {values : List WireValue}
    (read : decodeItems forest path type items = .ok values) :
    ∃ records : List WireRecord, values = records.map .record ∧
      ∀ record ∈ records, forest.Suits type record := by
  match items with
  | [] =>
      rw [decodeItems] at read
      cases read
      exact ⟨[], rfl, by simp⟩
  | item :: rest =>
      rw [decodeItems] at read
      obtain ⟨record, recordRead, read⟩ := Outcome.bind_eq_ok.mp read
      obtain ⟨others, othersRead, read⟩ := Outcome.bind_eq_ok.mp read
      cases Outcome.pure_eq_ok.mp read
      have first := decodeAt_suits ordered compiled path type item recordRead
      obtain ⟨records, rfl, later⟩ :=
        decodeItems_suit ordered compiled path type rest othersRead
      exact ⟨record :: records, rfl, List.forall_mem_cons.mpr ⟨first, later⟩⟩
termination_by sizeOf items

end

end

end Forest

end StoreSchema
