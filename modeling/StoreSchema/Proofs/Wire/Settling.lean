import StoreSchema.Proofs.Types.Kinds
import StoreSchema.Proofs.Wire.Usable

/-! # Storing again what was stored

What was read can be stored, read back and stored again. The two stored documents are the same but
for slots that mean something else once they are written: a list that stands alone in a slot of a
single member or of an open map is taken for the slot when it is read, and the list of a dense
vector of many for its one element.
-/

namespace StoreSchema

/-! ## Settled slots -/

/-- A slot is read from what it is written as with the elements that it has. Some lists are `whole`
    leaves: those are not taken for a list of elements, and may be where a list of elements was
    written. -/
def Slot.Settles (whole : Json → Bool) (cardinality : Cardinality) (slot : Slot WireValue) : Prop :=
  match cardinality with
  | .single => ∀ item, slot = .present [.leaf (.arr [item])] → whole (.arr [item])
  | .array => ∀ items : List Json, slot = .present (items.map .leaf) → whole (.arr items) = false

namespace Slot

theorem map_eq_present {slot : Slot Json} {items : List Json} :
    slot.map WireValue.leaf = .present (items.map .leaf) ↔ slot = .present items := by
  cases slot with
  | undefined | null => simp [Slot.map]
  | present values =>
      simp only [Slot.map, Slot.present.injEq]
      exact List.map_inj_right (fun _ _ => WireValue.leaf.inj)

/-- Only a list of one item that is no leaf collapses when it is read and written. -/
theorem ofLeaf_single (whole : Json → Bool) (raw : Json) :
    (ofLeaf whole raw).toJson .single = raw ↔ ∀ item, raw = .arr [item] → whole (.arr [item]) := by
  unfold ofLeaf
  split
  next isWhole =>
    refine iff_of_true rfl ?_
    intro item same
    rw [← same]
    exact isWhole
  next apart =>
    match raw with
    | .null | .bool _ | .int _ | .float _ | .str _ | .obj _ => exact iff_of_true rfl (by simp)
    | .arr [] | .arr (_ :: _ :: _) => exact iff_of_true rfl (by simp)
    | .arr [item] =>
        refine iff_of_false ?_ ?_
        · intro same
          have sizes : sizeOf item = sizeOf (Json.arr [item]) := congrArg sizeOf same
          simp only [Json.arr.sizeOf_spec, List.cons.sizeOf_spec] at sizes
          omega
        · intro settles
          exact apart (settles item rfl)

theorem toJson_array (items : List Json) : (present items).toJson .array = .arr items := by
  match items with
  | [] | [_] | _ :: _ :: _ => rfl

theorem ofLeaf_toJson_single (whole : Json → Bool) (slot : Slot Json) :
    (ofLeaf whole (slot.toJson .single)).toJson .single = slot.toJson .single ↔
      (slot.map WireValue.leaf).Settles whole .single := by
  rw [ofLeaf_single, Settles]
  constructor
  · intro settles item same
    have held : slot = .present [.arr [item]] := map_eq_present.mp same
    subst held
    exact settles item rfl
  · intro settles item same
    have held : slot = .present [.arr [item]] := by
      match slot with
      | .undefined | .null | .present [] | .present (_ :: _ :: _) => cases same
      | .present [value] =>
          have value_eq : value = .arr [item] := same
          rw [value_eq]
    exact settles item (congrArg (map WireValue.leaf) held)

theorem ofLeaf_toJson_array {whole : Json → Bool} (null : whole .null = false) (slot : Slot Json) :
    (ofLeaf whole (slot.toJson .array)).toJson .array = slot.toJson .array ↔
      (slot.map WireValue.leaf).Settles whole .array := by
  rw [Settles]
  cases slot with
  | undefined | null =>
      refine iff_of_true ?_ ?_
      · simp [toJson, ofLeaf, null, ofAny]
      · intro items same
        cases same
  | present items =>
      rw [toJson_array, ofLeaf]
      cases isWhole : whole (.arr items) with
      | true =>
          refine iff_of_false ?_ ?_
          · intro same
            have sizes := congrArg sizeOf same
            simp [toJson] at sizes
            omega
          · intro settles
            have apart := settles items rfl
            rw [isWhole] at apart
            cases apart
      | false =>
          refine iff_of_true (toJson_array items) ?_
          intro others same
          have held : Slot.present items = .present others := map_eq_present.mp same
          cases held
          exact isWhole

theorem ofLeaf_toJson {whole : Json → Bool} (null : whole .null = false)
    (cardinality : Cardinality) (slot : Slot Json) :
    (ofLeaf whole (slot.toJson cardinality)).toJson cardinality = slot.toJson cardinality ↔
      (slot.map WireValue.leaf).Settles whole cardinality := by
  cases cardinality with
  | single => exact ofLeaf_toJson_single whole slot
  | array => exact ofLeaf_toJson_array null slot

theorem toJson_inj {cardinality : Cardinality} {left right : List Json}
    (lengths : left.length = right.length) :
    (present left).toJson cardinality = (present right).toJson cardinality ↔ left = right := by
  match cardinality, left, right with
  | .array, left, right => simp [toJson_array]
  | .single, [], [] => simp
  | .single, [_], [_] => simp [toJson]
  | .single, _ :: _ :: _, _ :: _ :: _ => simp [toJson]
  | .single, [], _ :: _ | .single, _ :: _, [] => simp at lengths
  | .single, [_], _ :: _ :: _ | .single, _ :: _ :: _, [_] => simp at lengths

end Slot

namespace Forest

variable {forest : Forest} {path type : String} {member : Member}

/-- Every slot of a record settles, and so do the records inside. -/
inductive Settled (forest : Forest) : String → WireRecord → Prop where
  | openMap {type : String} {definition : Definition} {record : WireRecord}
      (found : forest.find? type = some definition) (body : definition.body = .openMap)
      (slots : ∀ slot ∈ record.map Prod.snd, slot.Settles (fun _ => false) .single) :
      Settled forest type record
  | record {type : String} {definition : Definition} {members : List Member}
      {record : WireRecord} (found : forest.find? type = some definition)
      (body : definition.body = .record members)
      (slots : ∀ member ∈ members, ∀ slot, record.lookup member.name = some slot →
        slot.Settles (isLeafList member.kind) member.cardinality)
      (below : ∀ member ∈ members, ∀ slot, record.lookup member.name = some slot →
        ∀ type, member.child? = some type → ∀ inner, .record inner ∈ slot.toList →
          Settled forest type inner) :
      Settled forest type record

/-- The slot of a member settles, and so do the records inside. -/
def SettledSlot (forest : Forest) (member : Member) (slot : Slot WireValue) : Prop :=
  slot.Settles (isLeafList member.kind) member.cardinality ∧
    ∀ type, member.child? = some type → ∀ inner, .record inner ∈ slot.toList →
      forest.Settled type inner

theorem settled_openMap {definition : Definition} {record : WireRecord}
    (found : forest.find? type = some definition) (body : definition.body = .openMap) :
    forest.Settled type record ↔
      ∀ slot ∈ record.map Prod.snd, slot.Settles (fun _ => false) .single := by
  constructor
  · intro settled
    cases settled with
    | openMap _ _ slots => exact slots
    | record same other =>
        cases Option.some.inj (found.symm.trans same)
        rw [body] at other
        cases other
  · exact .openMap found body

theorem settled_record {definition : Definition} {members : List Member} {record : WireRecord}
    (found : forest.find? type = some definition) (body : definition.body = .record members) :
    forest.Settled type record ↔
      ∀ member ∈ members, ∀ slot, record.lookup member.name = some slot →
        forest.SettledSlot member slot := by
  constructor
  · intro settled
    cases settled with
    | openMap same other =>
        cases Option.some.inj (found.symm.trans same)
        rw [body] at other
        cases other
    | record same other slots below =>
        cases Option.some.inj (found.symm.trans same)
        cases body.symm.trans other
        exact fun member inside slot held =>
          ⟨slots member inside slot held, below member inside slot held⟩
  · intro slots
    exact .record found body (fun member inside slot held => (slots member inside slot held).1)
      fun member inside slot held => (slots member inside slot held).2

/-! ## Slots written twice -/

/-- A slot of a member is written as a document. -/
def StoredAs (forest : Forest) (member : Member) (slot : Slot WireValue) (document : Json) : Prop :=
  ∃ shown, renderSlot forest stored member.child? slot = .ok shown ∧ shown.isUndefined = false ∧
    shown.toJson member.cardinality = document

/-- A slot is written, read back and written again; the outcome is the same if it is settled. -/
def SlotResettles (forest : Forest) (path : String) (member : Member) (slot : Slot WireValue) :
    Prop :=
  ∃ first again second, forest.StoredAs member slot first ∧
    decodeSlot forest path member first = .ok again ∧ forest.StoredAs member again second ∧
    (second = first ↔ forest.SettledSlot member slot)

/-- Records are written, read back and written again as objects. -/
def RecordsResettle (forest : Forest) (path type : String) (records : List WireRecord) : Prop :=
  ∃ (first second : List Json) (again : List WireRecord),
    renderValues forest stored (some type) (records.map .record) = .ok first ∧
    (∀ item ∈ first, item.isBare) ∧ decodeItems forest path type first = .ok (again.map .record) ∧
    renderValues forest stored (some type) (again.map .record) = .ok second ∧
    second.length = first.length ∧
    (second = first ↔ ∀ record ∈ records, forest.Settled type record)

/-- A record is written, read back and written again. -/
def Resettles (forest : Forest) (path type : String) (record : WireRecord) : Prop :=
  ∃ first again second, forest.render stored type record = .ok (.obj first) ∧
    decodeAt forest path type (.obj first) = .ok again ∧
    forest.render stored type again = .ok (.obj second) ∧
    (second = first ↔ forest.Settled type record)

theorem ofLeaf_not_undefined (whole : Json → Bool) (raw : Json) :
    (Slot.ofLeaf whole raw).isUndefined = false := by
  unfold Slot.ofLeaf
  split
  · rfl
  · cases raw <;> rfl

theorem leaves_resettle (child : member.child? = none) (raw : Json) :
    forest.SlotResettles path member ((Slot.ofLeaf (isLeafList member.kind) raw).map .leaf) := by
  let written := fun slot : Slot Json => slot.toJson member.cardinality
  let slot := Slot.ofLeaf (isLeafList member.kind) raw
  refine ⟨written slot, _, written (Slot.ofLeaf (isLeafList member.kind) (written slot)),
    ⟨slot, renderSlot_leaves _ _, ofLeaf_not_undefined _ raw, rfl⟩, decodeSlot_leaves child _,
    ⟨_, renderSlot_leaves _ _, ofLeaf_not_undefined _ _, rfl⟩, ?_⟩
  have null : isLeafList member.kind .null = false := by simp [isLeafList, isVector]
  rw [SettledSlot, ← Slot.ofLeaf_toJson null]
  simp [child, written, slot]

theorem null_resettles (child : member.child? = some type) :
    forest.SlotResettles path member .null := by
  have written : forest.StoredAs member .null .null := ⟨.null, by rw [renderSlot], rfl, rfl⟩
  have read : decodeSlot forest path member .null = .ok .null := by
    have apart : isLeafList member.kind .null = false := by simp [isLeafList, isVector]
    rw [decodeSlot, apart, child]
    rfl
  refine ⟨.null, .null, .null, written, read, written, iff_of_true rfl ?_⟩
  constructor
  · unfold Slot.Settles
    cases member.cardinality <;> exact fun _ same => by cases same
  · intro type child inner inside
    simp [Slot.toList, Slot.list?] at inside

theorem records_resettle {records : List WireRecord} (child : member.child? = some type)
    (compound : member.kind ≠ .denseVector)
    (below : forest.RecordsResettle path type records) :
    forest.SlotResettles path member (.present (records.map .record)) := by
  obtain ⟨first, second, again, written, bare, read, rewritten, lengths, settled⟩ := below
  have shown : ∀ values items, renderValues forest stored (some type) values = .ok items →
      forest.StoredAs member (.present values) ((Slot.present items).toJson member.cardinality) := by
    intro values items rendered
    exact ⟨.present items, by rw [child, renderSlot, rendered]; rfl, rfl, rfl⟩
  have slotRead : decodeSlot forest path member
      ((Slot.present first).toJson member.cardinality) = .ok (.present (again.map .record)) :=
    decodeSlot_toJson compound member.cardinality bare (by rw [child]; exact read)
  refine ⟨_, _, _, shown _ first written, slotRead, shown _ second rewritten, ?_⟩
  rw [Slot.toJson_inj lengths, settled]
  -- No records are leaves, so the slot settles by itself.
  have own : (Slot.present (records.map WireValue.record)).Settles (isLeafList member.kind)
      member.cardinality := by
    unfold Slot.Settles
    cases member.cardinality with
    | single =>
        intro item same
        cases records with
        | nil => cases same
        | cons record rest => cases same
    | array =>
        intro items same
        simp [isLeafList, compound]
  constructor
  · intro all
    refine ⟨own, ?_⟩
    intro other same inner inside
    cases child.symm.trans same
    obtain ⟨record, present, equal⟩ := List.mem_map.mp inside
    exact WireValue.record.inj equal ▸ all record present
  · intro slot record present
    exact slot.2 type child record (List.mem_map_of_mem present)

/-! ## Records written twice -/

theorem renderMember_stored {record : WireRecord} {slot : Slot WireValue} {document : Json}
    (held : record.lookup member.name = some slot) (written : forest.StoredAs member slot document) :
    renderMember forest stored record member = .ok [(member.name, document)] := by
  obtain ⟨shown, rendered, present, rfl⟩ := written
  rw [renderMember, held, Option.getD_some, rendered]
  simp only [Outcome.ok_bind, stored, present]
  rfl

/-- What becomes of a member in the two stored documents, and of its slot in between. -/
structure MemberResettles (forest : Forest) (path : String) (record : WireRecord)
    (member : Member) (first second : List (String × Json)) (slot : Option (Slot WireValue)) :
    Prop where
  written : renderMember forest stored record member = .ok first
  own : ∀ entry ∈ first, entry.1 = member.name
  read : readMember forest path first member = .ok slot
  rewritten : ∀ again : WireRecord, again.lookup member.name = slot →
    renderMember forest stored again member = .ok second
  length : second.length = first.length
  settled : second = first ↔ ∀ slot, record.lookup member.name = some slot →
    forest.SettledSlot member slot

theorem member_resettles {record : WireRecord}
    (slots : ∀ slot, record.lookup member.name = some slot →
      forest.SlotResettles (WireFault.below path member.name) member slot) :
    ∃ first second slot, forest.MemberResettles path record member first second slot := by
  cases held : record.lookup member.name with
  | none =>
      have absent : ∀ other : WireRecord, other.lookup member.name = none →
          renderMember forest stored other member = .ok [] := by
        intro other missing
        rw [renderMember, missing, Option.getD_none, renderSlot]
        rfl
      refine ⟨[], [], none, absent record held, by simp, rfl, absent, rfl, iff_of_true rfl ?_⟩
      intro slot found
      rw [held] at found
      cases found
  | some slot =>
      obtain ⟨first, again, second, written, read, rewritten, settled⟩ := slots slot held
      refine ⟨[(member.name, first)], [(member.name, second)], some again,
        renderMember_stored held written, by simp, ?_,
        fun other found => renderMember_stored found rewritten, rfl, ?_⟩
      · simp only [readMember, List.lookup_cons_self, read]
        rfl
      · simp [held, settled]

theorem flatMap_inj {α β : Type} {left right : α → List β} {owners : List α}
    (lengths : ∀ owner ∈ owners, (left owner).length = (right owner).length) :
    owners.flatMap left = owners.flatMap right ↔
      ∀ owner ∈ owners, left owner = right owner := by
  induction owners with
  | nil => simp
  | cons owner rest ih =>
      obtain ⟨first, later⟩ := List.forall_mem_cons.mp lengths
      rw [List.flatMap_cons, List.flatMap_cons, List.forall_mem_cons, ← ih later]
      constructor
      · exact fun same => List.append_inj same first
      · exact fun both => both.1 ▸ both.2 ▸ rfl

theorem record_resettles {definition : Definition} {members : List Member} {record : WireRecord}
    (found : forest.find? type = some definition) (body : definition.body = .record members)
    (once : (members.map Member.name).Nodup)
    (slots : ∀ member ∈ members, ∀ slot, record.lookup member.name = some slot →
      forest.SlotResettles (WireFault.below path member.name) member slot) :
    forest.Resettles path type record := by
  have each : ∀ member ∈ members, ∃ first second slot,
      forest.MemberResettles path record member first second slot :=
    fun member inside => member_resettles (slots member inside)
  choose! first second slot parts using each
  have read : ∀ member ∈ members,
      readMember forest path (members.flatMap first) member = .ok (slot member) := by
    intro member inside
    rw [readMember_congr (Keyed.lookup_flatMap once (fun other declared => (parts other declared).own) inside)]
    exact (parts member inside).read
  obtain ⟨again, decoded⟩ := decodeMembers_total fun member inside => ⟨_, read member inside⟩
  have held : ∀ member ∈ members, again.lookup member.name = slot member := by
    intro member inside
    have memberRead := (decodeMembers_slots once decoded).2 member inside
    exact Except.ok.inj (memberRead.symm.trans (read member inside))
  refine ⟨members.flatMap first, again, members.flatMap second, ?_, ?_, ?_, ?_⟩
  · rw [render, definition_ok found]
    simp only [body]
    rw [renderMembers_ok fun member inside => (parts member inside).written]
    rfl
  · rw [decodeAt, definition_ok found]
    simp only [body]
    exact decoded
  · rw [render, definition_ok found]
    simp only [body]
    rw [renderMembers_ok fun member inside =>
      (parts member inside).rewritten again (held member inside)]
    rfl
  · rw [flatMap_inj fun member inside => (parts member inside).length, settled_record found body]
    exact forall₂_congr fun member inside => (parts member inside).settled

/-- What is read under a key of an open map, as it is stored. -/
def openStored (entry : String × Json) : String × Json :=
  (entry.1, (Slot.ofAny entry.2).toJson .single)

theorem stored_entry (entry : String × Json) :
    stored.entry entry.1 (Slot.ofAny entry.2) = [openStored entry] := by
  have present := ofLeaf_not_undefined (fun _ => false) entry.2
  simp only [Slot.ofLeaf, Bool.false_eq_true, if_false] at present
  simp [stored, present, openStored]

theorem openMap_stored {definition : Definition} (found : forest.find? type = some definition)
    (body : definition.body = .openMap) (entries : List (String × Json)) :
    forest.render stored type (openRecord entries) =
      .ok (.obj ((Keyed.table entries).map openStored)) := by
  rw [openMap_renders found body, List.map_eq_flatMap]
  simp only [stored_entry]

theorem openStored_again (entry : String × Json) :
    openStored (openStored entry) = openStored entry ↔
      ((Slot.ofAny entry.2).map WireValue.leaf).Settles (fun _ => false) .single := by
  rw [← Slot.ofLeaf_toJson rfl .single (Slot.ofAny entry.2)]
  simp [openStored, Slot.ofLeaf]

theorem openMap_resettles {definition : Definition} (found : forest.find? type = some definition)
    (body : definition.body = .openMap) (entries : List (String × Json)) :
    forest.Resettles path type (openRecord entries) := by
  let first := (Keyed.table entries).map openStored
  have table : Keyed.table first = first := by
    refine Keyed.table_of_ascending ?_
    rw [Keyed.Ascending, List.map_map]
    exact Keyed.table_ascending entries
  refine ⟨first, openRecord first, first.map openStored, openMap_stored found body entries,
    ?_, ?_, ?_⟩
  · rw [decodeAt, definition_ok found]
    simp only [body]
  · rw [openMap_stored found body, table]
  · have same : first.map openStored = first ↔
        ∀ entry ∈ Keyed.table entries, openStored (openStored entry) = openStored entry := by
      rw [List.map_map, List.map_inj_left]
      rfl
    rw [same, settled_openMap found body, openRecord_eq, List.map_map, List.forall_mem_map]
    exact forall₂_congr fun entry _ => openStored_again entry

section

variable {config : Config} {root : String} {properties : Properties}

mutual

theorem Suits.resettles (ordered : properties.Ordered)
    (compiled : Forest.ofProperties config root properties = .ok forest)
    (kinds : CompoundKinds forest.types) (path type : String) (record : WireRecord)
    (suits : forest.Suits type record) : forest.Resettles path type record := by
  match suits with
  | .openMap found body entries => exact openMap_resettles found body entries
  | @Suits.record _ _ definition members _ found body slots =>
      have present := List.mem_of_find?_eq_some found
      refine record_resettles found body (names_nodup ordered compiled present body) ?_
      intro member inside slot held
      have compound : ∀ type, member.child? = some type → member.kind ≠ .denseVector := by
        intro type child
        obtain ⟨wire, element⟩ := element_of_child child
        exact kinds.not_vector present (Definition.members_of_record body ▸ inside) element
      cases slots member inside slot held with
      | leaves child raw => exact leaves_resettle child raw
      | @vector _ type raw child whole =>
          simp [isLeafList, compound type child] at whole
      | null child => exact null_resettles child
      | @records _ type records child suit =>
          have smaller : sizeOf (records.map WireValue.record) < sizeOf record := by
            have slotSmaller := Keyed.sizeOf_lt_of_lookup held
            simp only [Slot.present.sizeOf_spec] at slotSmaller
            omega
          exact records_resettle child (compound type child)
            (Suits.resettle_all ordered compiled kinds _ type records suit)
termination_by sizeOf record

theorem Suits.resettle_all (ordered : properties.Ordered)
    (compiled : Forest.ofProperties config root properties = .ok forest)
    (kinds : CompoundKinds forest.types) (path type : String) (records : List WireRecord)
    (suit : ∀ record ∈ records, forest.Suits type record) :
    forest.RecordsResettle path type records := by
  match records with
  | [] =>
      refine ⟨[], [], [], ?_, by simp, ?_, ?_, rfl, by simp⟩
      · rw [List.map_nil, renderValues]
      · rw [List.map_nil, decodeItems]
      · rw [List.map_nil, renderValues]
  | head :: rest =>
      obtain ⟨headSuits, restSuit⟩ := List.forall_mem_cons.mp suit
      obtain ⟨entries, again, later, written, read, rewritten, settled⟩ :=
        Suits.resettles ordered compiled kinds path type head headSuits
      obtain ⟨first, second, others, restWritten, bare, restRead, restRewritten, lengths,
        restSettled⟩ := Suits.resettle_all ordered compiled kinds path type rest restSuit
      refine ⟨.obj entries :: first, .obj later :: second, again :: others, ?_,
        List.forall_mem_cons.mpr ⟨rfl, bare⟩, ?_, ?_, by simp [lengths], ?_⟩
      · rw [List.map_cons, renderValues, written, restWritten]
        rfl
      · rw [decodeItems, read, restRead]
        rfl
      · rw [List.map_cons, renderValues, rewritten, restRewritten]
        rfl
      · rw [List.cons.injEq, Json.obj.injEq, settled, restSettled, List.forall_mem_cons]
termination_by sizeOf (records.map WireValue.record)

end

end

end Forest

/-- What was read is stored, read back and stored again, and the two stored documents are the same
    exactly where the record is settled. -/
theorem encode_decode_encode {document : Json} {mapping : Mapping} {config : Config}
    {root : String} {forest : Forest} (mapped : Mapping.ofJson document = .ok mapping)
    (compiled : Forest.ofProperties config root mapping.properties = .ok forest) {type : String}
    {wire : Json} {record : WireRecord} (decoded : forest.decode type wire = .ok record) :
    ∃ first again second, forest.encode type record = .ok first ∧
      forest.decode type first = .ok again ∧ forest.encode type again = .ok second ∧
      (second = first ↔ forest.Settled type record) := by
  have ordered := (Mapping.ofJson_placed mapped).1
  have suits := Forest.decodeAt_suits ordered compiled "" type wire decoded
  obtain ⟨first, again, second, written, read, rewritten, settled⟩ :=
    suits.resettles ordered compiled (Forest.compoundKinds mapped compiled) ""
  exact ⟨.obj first, again, .obj second, written, read, rewritten, by rw [Json.obj.injEq, settled]⟩

theorem sample_encode_decode_encode :
    ∃ first again second, Sample.forest.encode "Doc" Sample.unmanagedRecord = .ok first ∧
      Sample.forest.decode "Doc" first = .ok again ∧
      Sample.forest.encode "Doc" again = .ok second ∧
      (second = first ↔ Sample.forest.Settled "Doc" Sample.unmanagedRecord) :=
  encode_decode_encode Sample.mapped Sample.compiled Sample.unmanaged_read

namespace Sample

/-- A document in which the open map has a value under its one key. -/
def keyed (value : Json) : Json :=
  .obj [("manager", .obj [("extra", .arr [.obj [("key", value)]])])]

def keyedRecord (values : List Json) : WireRecord :=
  [("manager", .present [.record
     [("extra", .present [.record [("key", .present (values.map .leaf))]])]])]

theorem keyed_read (values : List Json) :
    forest.decode "Doc" (keyed (.arr values)) = .ok (keyedRecord values) := by
  simp [Forest.decode, Forest.decodeAt, Forest.definition, Forest.find?, forest, doc, load, manager,
    extra, Compile.openDefinition, keyed, Forest.decodeMembers, Forest.decodeSlot,
    Forest.decodeItems, Forest.isLeafList, List.lookup_cons, Member.child?, Forest.openRecord,
    Slot.ofAny, Slot.map, Keyed.insert, keyedRecord, pure, Except.pure]

theorem keyed_stored (values : List Json) :
    forest.encode "Doc" (keyedRecord values) =
      .ok (keyed ((Slot.present values).toJson .single)) := by
  simp [Forest.encode, Forest.render, Forest.renderMembers_cons, Forest.renderMember,
    Forest.renderMembers, Forest.renderEntries, Forest.renderSlot, Forest.renderValues,
    Forest.renderValues_leaves, Forest.definition, Forest.find?, forest, doc, load, manager, extra,
    Compile.openDefinition, keyedRecord, List.lookup_cons, Member.child?, Forest.stored,
    Slot.isUndefined, Slot.toJson, keyed, pure, Except.pure]

end Sample

/-- A list alone in a list becomes the list when it is stored, and its element when it is stored
    again. -/
theorem sample_stored_again :
    Sample.forest.decode "Doc" (Sample.keyed (.arr [.arr [.int 1]])) =
        .ok (Sample.keyedRecord [.arr [.int 1]]) ∧
      Sample.forest.encode "Doc" (Sample.keyedRecord [.arr [.int 1]]) =
        .ok (Sample.keyed (.arr [.int 1])) ∧
      Sample.forest.decode "Doc" (Sample.keyed (.arr [.int 1])) =
        .ok (Sample.keyedRecord [.int 1]) ∧
      Sample.forest.encode "Doc" (Sample.keyedRecord [.int 1]) = .ok (Sample.keyed (.int 1)) ∧
      Sample.keyed (.int 1) ≠ Sample.keyed (.arr [.int 1]) := by
  refine ⟨Sample.keyed_read _, Sample.keyed_stored _, Sample.keyed_read _, Sample.keyed_stored _, ?_⟩
  simp [Sample.keyed]

end StoreSchema
