import StoreSchema.Proofs.Wire.StoredReading
import StoreSchema.Proofs.Wire.Zeros

/-! # Records that were read can be written

A record that was read from a stored document suits the type that it was read as, and what suits a
type can be stored again and has a plain document. The plain document of a record has the declared
members and no other key, and lists keep the elements of their slots one by one.
-/

namespace StoreSchema

namespace Forest

variable {forest : Forest} {style : Rendering} {type : String} {member : Member}

/-! ## Values one by one -/

/-- What a value is rendered as: a leaf stands as it is, a record is rendered by its type. -/
inductive Rendered (forest : Forest) (style : Rendering) (child : Option String) :
    WireValue → Json → Prop where
  | leaf {value : Json} : Rendered forest style child (.leaf value) value
  | record {type : String} {record : WireRecord} {document : Json} (belongs : child = some type)
      (rendered : forest.render style type record = .ok document) :
      Rendered forest style child (.record record) document

theorem renderValues_ok {child : Option String} {values : List WireValue} {items : List Json}
    (rendered : renderValues forest style child values = .ok items) :
    List.Forall₂ (forest.Rendered style child) values items := by
  induction values generalizing items with
  | nil =>
      rw [renderValues] at rendered
      cases rendered
      exact .nil
  | cons value rest ih =>
      cases value with
      | leaf value =>
          rw [renderValues] at rendered
          obtain ⟨others, later, same⟩ := Outcome.bind_eq_ok.mp rendered
          cases Outcome.pure_eq_ok.mp same
          exact .cons .leaf (ih later)
      | record record =>
          cases child with
          | none =>
              rw [renderValues] at rendered
              cases rendered
          | some type =>
              rw [renderValues] at rendered
              obtain ⟨document, first, rendered⟩ := Outcome.bind_eq_ok.mp rendered
              obtain ⟨others, later, same⟩ := Outcome.bind_eq_ok.mp rendered
              cases Outcome.pure_eq_ok.mp same
              exact .cons (.record rfl first) (ih later)

theorem renderSlot_ok {child : Option String} {slot : Slot WireValue} {shown : Slot Json}
    (rendered : renderSlot forest style child slot = .ok shown) :
    List.Forall₂ (forest.Rendered style child) slot.toList shown.toList ∧
      slot.list?.isSome = shown.list?.isSome := by
  cases slot with
  | undefined | null =>
      rw [renderSlot] at rendered
      cases rendered
      exact ⟨.nil, rfl⟩
  | present values =>
      rw [renderSlot] at rendered
      obtain ⟨items, each, same⟩ := Outcome.bind_eq_ok.mp rendered
      cases Outcome.pure_eq_ok.mp same
      exact ⟨renderValues_ok each, rfl⟩

theorem renderSlot_leaves (child : Option String) (slot : Slot Json) :
    renderSlot forest style child (slot.map .leaf) = .ok slot := by
  cases slot with
  | undefined | null => rw [Slot.map, renderSlot]
  | present items =>
      rw [Slot.map, renderSlot, renderValues_leaves]
      rfl

/-! ## Success -/

/-- A way of rendering does not fail on the slots of the members of a forest. -/
def Rendering.Total (style : Rendering) (forest : Forest) : Prop :=
  ∀ definition ∈ forest.types, ∀ member ∈ definition.members, ∀ slot, ∃ part,
    style.member member slot = .ok part

theorem stored_total (forest : Forest) : stored.Total forest :=
  fun _ _ _ _ _ => ⟨_, rfl⟩

theorem plain_total (follow : forest.ChildrenFollow) : forest.plain.Total forest := by
  intro definition inside member declared slot
  have zero : ∃ zero, forest.zeroOf member.element = .ok zero := by
    cases element : member.element with
    | scalar _ zero | leaf _ zero => exact ⟨zero, rfl⟩
    | compound type wire =>
        obtain ⟨entries, found, -⟩ :=
          follow.zero definition inside member declared type (by rw [Member.child?, element])
        exact ⟨.obj entries, element ▸ found⟩
  obtain ⟨zero, found⟩ := zero
  obtain ⟨plain, formed⟩ := plainForm_total member.form zero slot
  refine ⟨[(member.name, plain)], ?_⟩
  simp only [Forest.plain, found, formed]
  rfl

theorem renderEntries_openRecord (entries : List (String × Json)) :
    renderEntries forest style (openRecord entries) =
      .ok ((Keyed.table entries).flatMap fun entry => style.entry entry.1 (Slot.ofAny entry.2)) := by
  rw [openRecord_eq]
  induction Keyed.table entries with
  | nil => rw [List.map_nil, renderEntries, List.flatMap_nil]
  | cons entry rest ih =>
      rw [List.map_cons, renderEntries, renderSlot_leaves, ih]
      rfl

theorem openMap_renders {definition : Definition} (found : forest.find? type = some definition)
    (body : definition.body = .openMap) (entries : List (String × Json)) :
    forest.render style type (openRecord entries) = .ok (.obj
      ((Keyed.table entries).flatMap fun entry => style.entry entry.1 (Slot.ofAny entry.2))) := by
  rw [render, definition_ok found]
  simp only [body, renderEntries_openRecord]
  rfl

theorem renderMembers_total {record : WireRecord} {members : List Member}
    (each : ∀ member ∈ members, ∃ part, renderMember forest style record member = .ok part) :
    ∃ entries, renderMembers forest style record members = .ok entries := by
  induction members with
  | nil => exact ⟨[], by rw [renderMembers]⟩
  | cons member rest ih =>
      obtain ⟨⟨part, first⟩, later⟩ := List.forall_mem_cons.mp each
      obtain ⟨entries, rendered⟩ := ih later
      refine ⟨part ++ entries, ?_⟩
      rw [renderMembers_cons, first, rendered]
      rfl

mutual

theorem Suits.renders (total : style.Total forest) (type : String) (record : WireRecord)
    (suits : forest.Suits type record) :
    ∃ entries, forest.render style type record = .ok (.obj entries) := by
  match suits with
  | .openMap found body entries => exact ⟨_, openMap_renders found body entries⟩
  | @Suits.record _ _ definition members _ found body slots =>
      have each : ∀ member ∈ members, ∃ part,
          renderMember forest style record member = .ok part := by
        intro member inside
        have declared : member ∈ definition.members :=
          Definition.members_of_record body ▸ inside
        have shown : ∃ shown, renderSlot forest style member.child?
            ((record.lookup member.name).getD .undefined) = .ok shown := by
          cases held : record.lookup member.name with
          | none => exact ⟨.undefined, by rw [Option.getD_none, renderSlot]⟩
          | some slot =>
              rw [Option.getD_some]
              cases slots member inside slot held with
              | leaves child raw => exact ⟨_, renderSlot_leaves member.child? _⟩
              | @vector _ _ raw child whole =>
                  exact ⟨.present [raw], renderSlot_leaves member.child? (.present [raw])⟩
              | null child => exact ⟨.null, by rw [renderSlot]⟩
              | @records _ type records child suit =>
                  have smaller : sizeOf (records.map WireValue.record) < sizeOf record := by
                    have slotSmaller := Keyed.sizeOf_lt_of_lookup held
                    simp only [Slot.present.sizeOf_spec] at slotSmaller
                    omega
                  obtain ⟨items, rendered⟩ := Suits.render_all total type records suit
                  exact ⟨.present items, by rw [child, renderSlot, rendered]; rfl⟩
        obtain ⟨shown, rendered⟩ := shown
        obtain ⟨part, becomes⟩ :=
          total definition (List.mem_of_find?_eq_some found) member declared shown
        refine ⟨part, ?_⟩
        rw [renderMember, rendered]
        exact becomes
      obtain ⟨entries, rendered⟩ := renderMembers_total each
      refine ⟨entries, ?_⟩
      rw [render, definition_ok found]
      simp only [body, rendered]
      rfl
termination_by sizeOf record

theorem Suits.render_all (total : style.Total forest) (type : String)
    (records : List WireRecord) (suit : ∀ record ∈ records, forest.Suits type record) :
    ∃ items, renderValues forest style (some type) (records.map .record) = .ok items := by
  match records with
  | [] => exact ⟨[], by rw [List.map_nil, renderValues]⟩
  | head :: rest =>
      obtain ⟨first, later⟩ := List.forall_mem_cons.mp suit
      obtain ⟨entries, document⟩ := Suits.renders total type head first
      obtain ⟨items, rendered⟩ := Suits.render_all total type rest later
      refine ⟨.obj entries :: items, ?_⟩
      rw [List.map_cons, renderValues, document, rendered]
      rfl
termination_by sizeOf (records.map WireValue.record)

end

/-! ## Plain documents -/

/-- What a plain document shows of the slot of a member. -/
inductive Shows (forest : Forest) (member : Member) (slot : Slot WireValue) : Json → Prop where
  /-- A list has as many elements as the slot, in the same order. -/
  | list {items : List Json}
      (form : member.form = .list ∨ member.form = .optionalList ∧ slot.list?.isSome)
      (each : List.Forall₂ (forest.Rendered forest.plain member.child?) slot.toList items) :
      Shows forest member slot (.arr items)
  | noList (form : member.form = .optionalList) (absent : slot.list? = none) :
      Shows forest member slot .null
  /-- A member that is single has the first element. -/
  | first {value : WireValue} {rest : List WireValue} {item : Json}
      (single : member.form.isSingle) (held : slot.toList = value :: rest)
      (rendered : forest.Rendered forest.plain member.child? value item) :
      Shows forest member slot item
  | noValue (form : member.form = .optionalValue) (empty : slot.toList = []) :
      Shows forest member slot .null
  | zero {zero : Json} (form : member.form = .value) (empty : slot.toList = [])
      (found : forest.zeroOf member.element = .ok zero) : Shows forest member slot zero

theorem plainForm_shows {slot : Slot WireValue} {shown : Slot Json} {plain : Json}
    (rendered : renderSlot forest forest.plain member.child? slot = .ok shown)
    (formed : plainForm member.form (forest.zeroOf member.element) shown = .ok plain) :
    forest.Shows member slot plain := by
  obtain ⟨each, present⟩ := renderSlot_ok rendered
  have first : ∀ item rest, shown.toList = item :: rest → member.form.isSingle →
      forest.Shows member slot item := by
    intro item rest held single
    rw [held, List.forall₂_cons_right_iff] at each
    obtain ⟨value, others, head, -, holds⟩ := each
    exact .first single holds head
  have empty : shown.toList = [] → slot.toList = [] := by
    intro none
    rwa [none, List.forall₂_nil_right_iff] at each
  cases form : member.form with
  | value =>
      rw [form, plainForm, Slot.first?] at formed
      cases held : shown.toList with
      | nil =>
          rw [held] at formed
          exact .zero form (empty held) formed
      | cons item rest =>
          rw [held] at formed
          cases formed
          exact first plain rest held (by rw [form]; rfl)
  | list =>
      rw [form, plainForm] at formed
      cases formed
      exact .list (.inl form) each
  | optionalValue =>
      rw [form, plainForm, Slot.first?] at formed
      cases held : shown.toList with
      | nil =>
          rw [held] at formed
          cases formed
          exact .noValue form (empty held)
      | cons item rest =>
          rw [held] at formed
          cases formed
          exact first item rest held (by rw [form]; rfl)
  | optionalList =>
      rw [form, plainForm] at formed
      cases held : shown.list? with
      | none =>
          rw [held] at formed present
          cases formed
          exact .noList form (by simpa using present)
      | some items =>
          rw [held] at formed present
          cases formed
          have same : shown.toList = items := by rw [Slot.toList, held]; rfl
          exact .list (.inr ⟨form, present⟩) (same ▸ each)

theorem renderMembers_shows {record : WireRecord} {members : List Member}
    {entries : List (String × Json)}
    (rendered : renderMembers forest forest.plain record members = .ok entries) :
    List.Forall₂ (fun member entry => entry.1 = member.name ∧
      forest.Shows member ((record.lookup member.name).getD .undefined) entry.2)
      members entries := by
  induction members generalizing entries with
  | nil =>
      rw [renderMembers] at rendered
      cases rendered
      exact .nil
  | cons member rest ih =>
      rw [renderMembers_cons, renderMember] at rendered
      obtain ⟨part, first, rendered⟩ := Outcome.bind_eq_ok.mp rendered
      obtain ⟨others, later, same⟩ := Outcome.bind_eq_ok.mp rendered
      obtain ⟨shown, slot, becomes⟩ := Outcome.bind_eq_ok.mp first
      obtain ⟨plain, formed, single⟩ := Outcome.bind_eq_ok.mp becomes
      cases Outcome.pure_eq_ok.mp single
      cases Outcome.pure_eq_ok.mp same
      exact .cons ⟨rfl, plainForm_shows slot formed⟩ (ih later)

/-- The plain document of a record: its keys are the declared names, and under each is what the
    document shows of the slot. -/
structure PlainRecord (forest : Forest) (members : List Member) (record : WireRecord)
    (entries : List (String × Json)) : Prop where
  keys : entries.map Prod.fst = members.map Member.name
  shows : ∀ member ∈ members, ∃ plain, entries.lookup member.name = some plain ∧
    forest.Shows member ((record.lookup member.name).getD .undefined) plain

/-- A record of a type can be written either way. -/
structure Usable (forest : Forest) (type : String) (record : WireRecord) : Prop where
  stored : ∃ document, forest.encode type record = .ok document
  plain : ∃ entries, forest.toPlain type record = .ok (.obj entries) ∧
    ∀ definition members, forest.find? type = some definition →
      definition.body = .record members → forest.PlainRecord members record entries

section

variable {config : Config} {root : String} {properties : Properties}

theorem Suits.usable (ordered : properties.Ordered)
    (compiled : Forest.ofProperties config root properties = .ok forest) {record : WireRecord}
    (suits : forest.Suits type record) : forest.Usable type record := by
  have follow := children_follow ordered compiled
  obtain ⟨document, encoded⟩ := suits.renders (stored_total forest)
  obtain ⟨entries, rendered⟩ := suits.renders (plain_total follow)
  refine ⟨⟨.obj document, encoded⟩, entries, rendered, ?_⟩
  intro definition members found body
  have once := names_nodup ordered compiled (List.mem_of_find?_eq_some found) body
  have each : renderMembers forest forest.plain record members = .ok entries := by
    rw [render, definition_ok found] at rendered
    simp only [body] at rendered
    obtain ⟨same, members, object⟩ := Outcome.bind_eq_ok.mp rendered
    cases Outcome.pure_eq_ok.mp object
    exact members
  have shows := renderMembers_shows each
  have keys : entries.map Prod.fst = members.map Member.name :=
    (Lists.map_eq_map (fun member entry shown => shown.1.symm) shows).symm
  refine ⟨keys, ?_⟩
  intro member inside
  obtain ⟨⟨name, plain⟩, present, same, shown⟩ := Lists.exists_right shows inside
  subst same
  exact ⟨plain, Keyed.lookup_of_mem (keys ▸ once) present, shown⟩

end

end Forest

/-- Whatever was read can be used: it is stored again and has a plain document, with the declared
    members and the elements of their slots. Required records that are missing are filled in, for
    which the definitions of children stand behind those of their parents. -/
theorem decode_usable {config : Config} {root : String} {properties : Properties} {forest : Forest}
    (ordered : properties.Ordered)
    (compiled : Forest.ofProperties config root properties = .ok forest) {type : String}
    {wire : Json} {record : WireRecord} (decoded : forest.decode type wire = .ok record) :
    forest.ChildrenFollow ∧ forest.Usable type record :=
  ⟨Forest.children_follow ordered compiled,
    (Forest.decodeAt_suits ordered compiled "" type wire decoded).usable ordered compiled⟩

namespace Sample

/-- A document without the manager that it must have. -/
def unmanaged : Json :=
  .obj [("load", .arr [.null, .obj [("max", .int 1)]]), ("other", .null)]

def unmanagedRecord : WireRecord :=
  [("load", .present [.leaf .null, .leaf (.obj [("max", .int 1)])])]

theorem unmanaged_read : forest.decode "Doc" unmanaged = .ok unmanagedRecord := by
  simp [Forest.decode, Forest.decodeAt, Forest.definition, Forest.find?, forest, doc, unmanaged,
    Forest.decodeMembers, Forest.decodeSlot, Forest.isLeafList, List.lookup_cons, Member.child?,
    Slot.ofAny, Slot.map, Keyed.insert, unmanagedRecord, pure, Except.pure]

end Sample

theorem sample_decode_usable :
    Sample.forest.ChildrenFollow ∧ Sample.forest.Usable "Doc" Sample.unmanagedRecord :=
  decode_usable (Mapping.ofJson_placed Sample.mapped).1 Sample.compiled Sample.unmanaged_read

end StoreSchema
