import StoreSchema.Proofs.Types.Kinds
import StoreSchema.Proofs.Wire.PlainRoundTrip
import StoreSchema.Proofs.Wire.Usable

/-! # Plain documents as input

The plain document of a record that was read can be read again, and what comes of it has the same
plain document, unless the document shows `null` for a required single member. It does so where the
first value of the member is `null`, and where there is none and nothing but `null` is the zero of
its kind. Such a document is refused.
-/

namespace StoreSchema

/-! ## What a plain document shows -/

/-- A required single member shows `null`: its first value is `null`, or it has none and its kind
    has no other zero. -/
def Member.ShowsNull (member : Member) (slot : Slot WireValue) : Prop :=
  member.form = .value ∧
    (slot.first? = some (.leaf .null) ∨ slot.first? = none ∧ member.kind.isUntyped)

/-- The records that a member shows: those of a list, the first of a single member, and an empty one
    where one is required and missing. -/
inductive Member.ShowsRecord (member : Member) (slot : Slot WireValue) : WireRecord → Prop where
  | listed {record : WireRecord} (multiple : member.form.isSingle = false)
      (inside : .record record ∈ slot.toList) : ShowsRecord member slot record
  | first {record : WireRecord} (single : member.form.isSingle)
      (held : slot.first? = some (.record record)) : ShowsRecord member slot record
  | zero (form : member.form = .value) (empty : slot.first? = none) : ShowsRecord member slot []

section

variable {member : Member} {slot : Slot WireValue} {record : WireRecord}

theorem Member.showsRecord_list (multiple : member.form.isSingle = false) :
    member.ShowsRecord slot record ↔ .record record ∈ slot.toList := by
  constructor
  · intro shows
    cases shows with
    | listed _ inside => exact inside
    | first single => rw [multiple] at single; cases single
    | zero form => rw [form] at multiple; cases multiple
  · exact .listed multiple

theorem Member.showsRecord_single (single : member.form.isSingle) :
    member.ShowsRecord slot record ↔
      slot.first? = some (.record record) ∨
        member.form = .value ∧ slot.first? = none ∧ record = [] := by
  constructor
  · intro shows
    cases shows with
    | listed multiple => rw [single] at multiple; cases multiple
    | first _ held => exact .inl held
    | zero form empty => exact .inr ⟨form, empty, rfl⟩
  · rintro (held | ⟨form, empty, rfl⟩)
    · exact .first single held
    · exact .zero form empty

end

namespace Forest

mutual

/-- The plain document of a record shows `null` for a required single member, of its own or of a
    record that it shows. -/
inductive Gap (forest : Forest) : String → WireRecord → Prop where
  | member {type : String} {record : WireRecord} {definition : Definition} {members : List Member}
      {member : Member} (found : forest.find? type = some definition)
      (body : definition.body = .record members) (inside : member ∈ members)
      (gap : MemberGap forest member ((record.lookup member.name).getD .undefined)) :
      Gap forest type record

/-- A member shows `null` where a value is required, or a record that does. -/
inductive MemberGap (forest : Forest) : Member → Slot WireValue → Prop where
  | null {member : Member} {slot : Slot WireValue} (shows : member.ShowsNull slot) :
      MemberGap forest member slot
  | nested {member : Member} {slot : Slot WireValue} {type : String} {record : WireRecord}
      (child : member.child? = some type) (shown : member.ShowsRecord slot record)
      (gap : Gap forest type record) : MemberGap forest member slot

end

variable {forest : Forest} {path type : String} {member : Member} {slot : Slot WireValue}

theorem gap_iff {definition : Definition} {members : List Member} {record : WireRecord}
    (found : forest.find? type = some definition) (body : definition.body = .record members) :
    forest.Gap type record ↔
      ∃ member ∈ members, forest.MemberGap member ((record.lookup member.name).getD .undefined) := by
  constructor
  · intro gap
    cases gap with
    | member foundAgain bodyAgain inside gap =>
        cases Option.some.inj (found.symm.trans foundAgain)
        cases Body.record.inj (body.symm.trans bodyAgain)
        exact ⟨_, inside, gap⟩
  · rintro ⟨member, inside, gap⟩
    exact .member found body inside gap

theorem not_gap_of_openMap {definition : Definition} {record : WireRecord}
    (found : forest.find? type = some definition) (body : definition.body = .openMap) :
    ¬ forest.Gap type record := by
  intro gap
  cases gap with
  | member foundAgain bodyAgain =>
      cases Option.some.inj (found.symm.trans foundAgain)
      rw [body] at bodyAgain
      cases bodyAgain

theorem memberGap_iff :
    forest.MemberGap member slot ↔ member.ShowsNull slot ∨
      ∃ type record, member.child? = some type ∧ member.ShowsRecord slot record ∧
        forest.Gap type record := by
  constructor
  · intro gap
    cases gap with
    | null shows => exact .inl shows
    | nested child shown gap => exact .inr ⟨_, _, child, shown, gap⟩
  · rintro (shows | ⟨type, record, child, shown, gap⟩)
    · exact .null shows
    · exact .nested child shown gap

theorem memberGap_list (multiple : member.form.isSingle = false) :
    forest.MemberGap member slot ↔
      ∃ type record, member.child? = some type ∧ .record record ∈ slot.toList ∧
        forest.Gap type record := by
  have other : ¬ member.ShowsNull slot := by
    rintro ⟨form, -⟩
    rw [form] at multiple
    cases multiple
  simp only [memberGap_iff, or_iff_right other, Member.showsRecord_list multiple]

theorem memberGap_leaf {value : Json} (single : member.form.isSingle)
    (held : slot.first? = some (.leaf value)) :
    forest.MemberGap member slot ↔ member.form = .value ∧ value = .null := by
  simp [memberGap_iff, Member.showsRecord_single single, Member.ShowsNull, held]

theorem memberGap_record {record : WireRecord} (single : member.form.isSingle)
    (child : member.child? = some type) (held : slot.first? = some (.record record)) :
    forest.MemberGap member slot ↔ forest.Gap type record := by
  simp [memberGap_iff, Member.showsRecord_single single, Member.ShowsNull, held, child]

theorem memberGap_zero (form : member.form = .value) (empty : slot.first? = none)
    (child : member.child? = none) : forest.MemberGap member slot ↔ member.kind.isUntyped := by
  simp [memberGap_iff, Member.ShowsNull, form, empty, child]

theorem memberGap_empty (form : member.form = .value) (empty : slot.first? = none)
    (child : member.child? = some type) (typed : ¬ member.kind.isUntyped) :
    forest.MemberGap member slot ↔ forest.Gap type [] := by
  have single : member.form.isSingle := by rw [form]; rfl
  simp [memberGap_iff, Member.showsRecord_single single, Member.ShowsNull, form, empty, child,
    typed]

theorem not_memberGap (form : member.form = .optionalValue) (empty : slot.first? = none) :
    ¬ forest.MemberGap member slot := by
  have single : member.form.isSingle := by rw [form]; rfl
  simp [memberGap_iff, Member.showsRecord_single single, Member.ShowsNull, form, empty]

/-! ## Reading up to a gap -/

/-- A reading succeeds unless there is a gap, and fails for want of a value if there is one. -/
inductive ReadsUnless {α : Type} (gap : Prop) : Except WireFault α → Prop where
  | read {value : α} (none : ¬ gap) : ReadsUnless gap (.ok value)
  | refused {path typeName : String} (found : gap) :
      ReadsUnless gap (.error (.misshaped path .null "present value" typeName))

section

variable {α β : Type} {gap other : Prop}

theorem ReadsUnless.congr {result : Except WireFault α} (reads : ReadsUnless gap result)
    (same : other ↔ gap) : ReadsUnless other result := by
  cases reads with
  | read none => exact .read (mt same.mp none)
  | refused found => exact .refused (same.mpr found)

theorem ReadsUnless.bind {first : Except WireFault α} {next : α → Except WireFault β}
    (reads : ReadsUnless gap first) (continues : ∀ value, ReadsUnless other (next value)) :
    ReadsUnless (gap ∨ other) (first >>= next) := by
  cases reads with
  | refused found => exact .refused (.inl found)
  | @read value none =>
      exact (continues value).congr (or_iff_right none)

theorem ReadsUnless.map {first : Except WireFault α} (reads : ReadsUnless gap first)
    (f : α → β) : ReadsUnless gap (first >>= fun value => pure (f value)) := by
  cases reads with
  | refused found => exact .refused found
  | read none => exact .read none

end

/-! ## Values -/

/-- A value that a member may hold: a leaf, or where records belong one that suits their type. -/
inductive SuitsValue (forest : Forest) : Option String → WireValue → Prop where
  | leaf (value : Json) : SuitsValue forest none (.leaf value)
  | record {type : String} {record : WireRecord} (suits : forest.Suits type record) :
      SuitsValue forest (some type) (.record record)

theorem SuitsSlot.values (suits : forest.SuitsSlot member slot)
    (notVector : ∀ type, member.child? = some type → member.kind ≠ .denseVector) :
    ∀ value ∈ slot.toList, forest.SuitsValue member.child? value := by
  cases suits with
  | leaves child raw =>
      rw [child]
      intro value inside
      obtain ⟨leaf, rfl⟩ : ∃ leaf, value = .leaf leaf := by
        cases held : Slot.ofLeaf (isLeafList member.kind) raw with
        | undefined | null => simp [held, Slot.map, Slot.toList, Slot.list?] at inside
        | present leaves =>
            rw [held] at inside
            obtain ⟨leaf, -, same⟩ := List.mem_map.mp inside
            exact ⟨leaf, same.symm⟩
      exact .leaf leaf
  | vector child whole =>
      rw [not_isLeafList (notVector _ child)] at whole
      cases whole
  | null child => exact List.forall_mem_nil _
  | records child suit =>
      rw [child]
      intro value inside
      obtain ⟨record, among, rfl⟩ := List.mem_map.mp inside
      exact .record (suit record among)

/-- The plain document of a record is as it would come out again, and is read unless it has a
    gap. -/
structure Rereads (forest : Forest) (type : String) (record : WireRecord)
    (entries : List (String × Json)) : Prop where
  shown : forest.toPlain type record = .ok (.obj entries)
  stays : forest.canonical type (.obj entries) = .obj entries
  reads : ∀ path, ReadsUnless (forest.Gap type record) (ofPlainAt forest path type (.obj entries))

/-- The records that suit a type have plain documents that are read again. -/
def Repeats (forest : Forest) (type : String) : Prop :=
  ∀ record, forest.Suits type record → ∃ entries, forest.Rereads type record entries

/-- The plain form of a value is as it would come out again, and is read unless it has a gap. -/
structure ValueRereads (forest : Forest) (child : Option String) (value : WireValue) (item : Json) :
    Prop where
  stays : ∀ type, child = some type → forest.canonical type item = item
  reads : ∀ path, ReadsUnless (∃ type record, child = some type ∧ value = .record record ∧
    forest.Gap type record) (ofPlainValue forest path child item)

theorem Rereads.of_shown {record : WireRecord} {item : Json} (repeats : forest.Repeats type)
    (suits : forest.Suits type record) (shown : forest.toPlain type record = .ok item) :
    ∃ entries, item = .obj entries ∧ forest.Rereads type record entries := by
  obtain ⟨entries, rereads⟩ := repeats record suits
  cases rereads.shown.symm.trans shown
  exact ⟨entries, rfl, rereads⟩

theorem value_rereads {child : Option String} {value : WireValue} {item : Json}
    (repeats : ∀ type, child = some type → forest.Repeats type)
    (suits : forest.SuitsValue child value)
    (rendered : forest.Rendered forest.plain child value item) :
    forest.ValueRereads child value item := by
  cases suits with
  | leaf leaf =>
      refine ⟨nofun, fun path => ?_⟩
      rw [ofPlainValue]
      exact .read (by simp)
  | @record type record suits =>
      cases rendered with
      | record belongs shown =>
          cases belongs
          obtain ⟨entries, rfl, rereads⟩ := Rereads.of_shown (repeats type rfl) suits shown
          refine ⟨?_, fun path => ?_⟩
          · rintro _ ⟨⟩
            exact rereads.stays
          · rw [ofPlainValue]
            exact ((rereads.reads path).map WireValue.record).congr (by simp)

theorem items_stay {values : List WireValue} {items : List Json}
    (each : List.Forall₂ (forest.ValueRereads (some type)) values items) :
    canonicalItems forest type items = items := by
  induction each with
  | nil => rw [canonicalItems]
  | cons first _ ih => rw [canonicalItems, first.stays type rfl, ih]

theorem items_read {child : Option String} {values : List WireValue} {items : List Json}
    (each : List.Forall₂ (forest.ValueRereads child) values items) (path : String) :
    ReadsUnless (∃ type record, child = some type ∧ .record record ∈ values ∧
      forest.Gap type record) (ofPlainItems forest path child items) := by
  induction each with
  | nil =>
      rw [ofPlainItems]
      exact .read (by simp)
  | @cons value item values items first _ ih =>
      rw [ofPlainItems]
      refine ((first.reads path).bind fun read => ih.map (read :: ·)).congr ?_
      constructor
      · rintro ⟨type, record, child, inside, gap⟩
        cases List.mem_cons.mp inside with
        | inl same => exact .inl ⟨type, record, child, same.symm, gap⟩
        | inr later => exact .inr ⟨type, record, child, later, gap⟩
      · rintro (⟨type, record, child, rfl, gap⟩ | ⟨type, record, child, later, gap⟩)
        · exact ⟨type, record, child, List.mem_cons_self, gap⟩
        · exact ⟨type, record, child, List.mem_cons_of_mem _ later, gap⟩

/-! ## Members -/

/-- The plain form of a member is as it would come out again, and is read unless it has a gap. -/
structure MemberRereads (forest : Forest) (member : Member) (slot : Slot WireValue) (plain : Json) :
    Prop where
  stays : canonicalValue forest member.child? plain = plain
  reads : ∀ path, ReadsUnless (forest.MemberGap member slot) (ofPlainSlot forest path member plain)

theorem ofPlainSlot_single (single : member.form.isSingle) {raw : Json} (some : raw ≠ .null) :
    ofPlainSlot forest path member raw = (do
      let value ← ofPlainValue forest path member.child? raw
      pure (.present [value])) := by
  cases raw with
  | null => exact absurd rfl some
  | arr items => rw [ofPlainSlot, if_pos single]
  | bool _ | int _ | float _ | str _ | obj _ => rw [ofPlainSlot, if_pos single] <;> simp

theorem null_reads (single : member.form.isSingle) (path : String) :
    ReadsUnless (member.form = .value) (ofPlainSlot forest path member .null) := by
  rw [ofPlainSlot]
  unfold absentSlot
  cases form : member.form with
  | value => exact .refused rfl
  | optionalValue => exact .read (by decide)
  | list | optionalList =>
      rw [form] at single
      cases single

theorem leaf_reads (single : member.form.isSingle) (child : member.child? = none) (raw : Json)
    (path : String) :
    ReadsUnless (member.form = .value ∧ raw = .null) (ofPlainSlot forest path member raw) := by
  by_cases null : raw = .null
  · subst null
    exact (null_reads single path).congr (and_iff_left rfl)
  · rw [ofPlainSlot_single single null, child, ofPlainValue]
    exact .read fun both => null both.2

theorem record_reads {record : WireRecord} {entries : List (String × Json)}
    (single : member.form.isSingle) (child : member.child? = some type)
    (rereads : forest.Rereads type record entries) (path : String) :
    ReadsUnless (forest.Gap type record) (ofPlainSlot forest path member (.obj entries)) := by
  have some : Json.obj entries ≠ .null := by simp
  rw [ofPlainSlot_single single some, child, ofPlainValue]
  exact ((rereads.reads path).map WireValue.record).map fun value => Slot.present [value]

/-- What is known of a member in the forest of a mapping: the zero of its leaves, and of its records
    that an empty one suits their type and has a plain document, which is their zero. -/
structure Founded (forest : Forest) (member : Member) : Prop where
  leaf : ∀ zero, member.element.zero? = some zero → (zero = .null ↔ member.kind.isUntyped)
  compound : ∀ type, member.child? = some type → member.kind.isCompound
  suits : ∀ type, member.child? = some type → forest.Suits type []
  zero : ∀ type, member.child? = some type → ∃ entries,
    forest.zeroOf member.element = .ok (.obj entries) ∧ forest.toPlain type [] = .ok (.obj entries)

section

variable {plain : Json} (repeats : ∀ type, member.child? = some type → forest.Repeats type)

include repeats

theorem list_rereads {items : List Json} (multiple : member.form.isSingle = false)
    (values : ∀ value ∈ slot.toList, forest.SuitsValue member.child? value)
    (each : List.Forall₂ (forest.Rendered forest.plain member.child?) slot.toList items) :
    forest.MemberRereads member slot (.arr items) := by
  have reread : List.Forall₂ (forest.ValueRereads member.child?) slot.toList items :=
    (List.forall₂_and_left _ _ |>.mpr ⟨values, each⟩).imp fun _ _ both =>
      value_rereads repeats both.1 both.2
  constructor
  · cases child : member.child? with
    | none => rw [canonicalValue]
    | some type =>
        rw [child] at reread
        rw [canonicalValue, items_stay reread]
  · intro path
    rw [ofPlainSlot, if_neg (by simp [multiple])]
    exact ((items_read reread path).map Slot.present).congr (memberGap_list multiple)

theorem record_rereads {record : WireRecord} (single : member.form.isSingle)
    (child : member.child? = some type) (suits : forest.Suits type record)
    (shown : forest.toPlain type record = .ok plain)
    (gaps : forest.MemberGap member slot ↔ forest.Gap type record) :
    forest.MemberRereads member slot plain := by
  obtain ⟨entries, rfl, rereads⟩ := Rereads.of_shown (repeats type child) suits shown
  constructor
  · rw [child, canonicalValue]
    · exact rereads.stays
    · simp
  · exact fun path => (record_reads single child rereads path).congr gaps

theorem first_rereads {value : WireValue} (single : member.form.isSingle)
    (held : slot.first? = some value) (suits : forest.SuitsValue member.child? value)
    (rendered : forest.Rendered forest.plain member.child? value plain) :
    forest.MemberRereads member slot plain := by
  generalize child : member.child? = type? at suits rendered
  cases suits with
  | leaf leaf =>
      cases rendered
      constructor
      · rw [child, canonicalValue]
      · exact fun path => (leaf_reads single child plain path).congr (memberGap_leaf single held)
  | record suits =>
      cases rendered with
      | record belongs shown =>
          cases belongs
          exact record_rereads repeats single child suits shown
            (memberGap_record single child held)

theorem zero_rereads (founded : forest.Founded member) (form : member.form = .value)
    (empty : slot.first? = none) (found : forest.zeroOf member.element = .ok plain) :
    forest.MemberRereads member slot plain := by
  have single : member.form.isSingle := by rw [form]; rfl
  cases child : member.child? with
  | none =>
      have own : member.element.zero? = some plain := by
        cases element : member.element with
        | scalar _ zero | leaf _ zero =>
            rw [element] at found
            cases found
            rfl
        | compound => simp [Member.child?, element] at child
      constructor
      · rw [child, canonicalValue]
      · refine fun path => (leaf_reads single child plain path).congr ?_
        rw [memberGap_zero form empty child, ← founded.leaf plain own, and_iff_right form]
  | some type =>
      obtain ⟨entries, zero, shown⟩ := founded.zero type child
      cases found.symm.trans zero
      have typed : ¬ member.kind.isUntyped := by
        have compound := founded.compound type child
        cases kind : member.kind <;> simp_all [Kind.isCompound, Kind.isUntyped]
      exact record_rereads repeats single child (founded.suits type child) shown
        (memberGap_empty form empty child typed)

theorem member_rereads (founded : forest.Founded member)
    (values : ∀ value ∈ slot.toList, forest.SuitsValue member.child? value)
    (shows : forest.Shows member slot plain) : forest.MemberRereads member slot plain := by
  cases shows with
  | list form each =>
      have multiple : member.form.isSingle = false := by
        rcases form with form | ⟨form, -⟩ <;> rw [form] <;> rfl
      exact list_rereads repeats multiple values each
  | noList form absent =>
      have multiple : member.form.isSingle = false := by rw [form]; rfl
      refine ⟨canonicalValue_null _, fun path => ?_⟩
      rw [ofPlainSlot]
      simp only [absentSlot, form]
      exact .read (by simp [memberGap_list multiple, Slot.toList, absent])
  | first single held rendered =>
      exact first_rereads repeats single (by rw [Slot.first?, held]; rfl)
        (values _ (by simp [held])) rendered
  | noValue form empty =>
      have single : member.form.isSingle := by rw [form]; rfl
      refine ⟨canonicalValue_null _, fun path => (null_reads single path).congr ?_⟩
      exact iff_of_false (not_memberGap form (by simp [Slot.first?, empty])) (by simp [form])
  | zero form empty found =>
      exact zero_rereads repeats founded form (by simp [Slot.first?, empty]) found

end

/-! ## Records -/

theorem members_read {record : WireRecord} {entries : List (String × Json)} {members : List Member}
    (each : ∀ member ∈ members, forest.MemberRereads member
      ((record.lookup member.name).getD .undefined) ((entries.lookup member.name).getD .null)) :
    ReadsUnless
      (∃ member ∈ members, forest.MemberGap member ((record.lookup member.name).getD .undefined))
      (ofPlainMembers forest path entries members) := by
  induction members with
  | nil =>
      rw [ofPlainMembers]
      exact .read (by simp)
  | cons member rest ih =>
      obtain ⟨first, later⟩ := List.forall_mem_cons.mp each
      rw [ofPlainMembers_cons]
      refine ((first.reads _).bind fun slot => (ih later).map (addSlot member.name slot)).congr ?_
      simp only [List.exists_mem_cons_iff]

theorem rereads_of_members {definition : Definition} {members : List Member} {record : WireRecord}
    {entries : List (String × Json)} (found : forest.find? type = some definition)
    (body : definition.body = .record members) (once : (members.map Member.name).Nodup)
    (keys : entries.map Prod.fst = members.map Member.name)
    (shown : forest.toPlain type record = .ok (.obj entries))
    (each : ∀ member ∈ members, forest.MemberRereads member
      ((record.lookup member.name).getD .undefined) ((entries.lookup member.name).getD .null)) :
    forest.Rereads type record entries := by
  refine ⟨shown, ?_, fun path => ?_⟩
  · -- The canonical form has the declared keys in their order, which the document has already.
    have same : (members.map fun member => (member.name,
        canonicalValue forest member.child? ((entries.lookup member.name).getD .null))) =
          (members.map Member.name).map fun key => (key, (entries.lookup key).getD .null) := by
      rw [List.map_map]
      exact List.map_congr_left fun member inside => by rw [(each member inside).stays]; rfl
    rw [canonical_record found body, same, ← keys, Keyed.map_lookup (keys ▸ once)]
  · rw [ofPlainAt, definition_ok found]
    simp only [body]
    exact (members_read each).congr (gap_iff found body)

theorem openMap_rereads {definition : Definition} (found : forest.find? type = some definition)
    (body : definition.body = .openMap) (entries : List (String × Json)) :
    ∃ shown, forest.Rereads type (openRecord entries) shown := by
  let shown := (Keyed.table entries).map fun entry => (entry.1, Json.arr (Slot.ofAny entry.2).toList)
  have ascending : Keyed.Ascending shown := by
    have keys : shown.map Prod.fst = (Keyed.table entries).map Prod.fst := List.map_map
    rw [Keyed.Ascending, keys]
    exact Keyed.table_ascending entries
  refine ⟨shown, ?_, ?_, fun path => ?_⟩
  · rw [toPlain, openMap_renders found body]
    exact congrArg (fun members => Except.ok (Json.obj members)) List.map_eq_flatMap.symm
  · rw [canonical_openMap found body, Keyed.table_of_ascending ascending, List.map_map]
    rfl
  · rw [ofPlainAt, definition_ok found]
    simp only [body]
    exact .read (not_gap_of_openMap found body)

/-! ## Forests -/

theorem suits_nil {definition : Definition} (found : forest.find? type = some definition)
    (pair : definition.isPair) : forest.Suits type [] := by
  cases body : definition.body with
  | openMap =>
      have empty : openRecord [] = [] := rfl
      exact empty ▸ .openMap found body []
  | record members => exact .record found body fun _ _ _ held => by simp at held
  | date _ | aggregate _ => simp [Definition.isPair, body] at pair

section

variable {document : Json} {mapping : Mapping} {config : Config} {root : String}

theorem founded (read : Mapping.ofJson document = .ok mapping)
    (compiled : Forest.ofProperties config root mapping.properties = .ok forest)
    {definition : Definition} (inside : definition ∈ forest.types)
    (declared : member ∈ definition.members) : forest.Founded member := by
  have ordered := (Mapping.ofJson_placed read).1
  have follow := children_follow ordered compiled
  refine ⟨fun zero => zero_null_iff read compiled inside declared, ?_, ?_,
    follow.zero definition inside member declared⟩
  · intro type child
    obtain ⟨wire, element⟩ := element_of_child child
    exact compoundKinds read compiled definition inside member declared (by rw [element]; rfl)
  · intro type child
    obtain ⟨index, stands⟩ := List.mem_iff_getElem?.mp inside
    obtain ⟨later, target, -, targetAt, rfl, pair⟩ :=
      child_later ordered compiled stands declared child
    exact suits_nil (find?_eq_some compiled (List.mem_of_getElem? targetAt)) pair

/-- Whatever suits a type of records has a plain document that is read again up to a gap. -/
theorem repeats (read : Mapping.ofJson document = .ok mapping)
    (compiled : Forest.ofProperties config root mapping.properties = .ok forest)
    {definition : Definition} (inside : definition ∈ forest.types) (pair : definition.isPair) :
    forest.Repeats definition.name := by
  have ordered := (Mapping.ofJson_placed read).1
  -- By induction on types and not on records: an empty record that stands for a missing one is no
  -- part of the record that it is missing from.
  refine children_first ordered compiled (fun definition inside _ below record suits => ?_)
    inside pair
  have itself := find?_eq_some compiled inside
  obtain ⟨-, entries, shown, each⟩ := suits.usable ordered compiled
  cases suits with
  | openMap found body stored => exact openMap_rereads found body stored
  | @record _ _ members _ found body slots =>
      cases Option.some.inj (itself.symm.trans found)
      obtain ⟨keys, shows⟩ := each definition members found body
      have once := names_nodup ordered compiled inside body
      refine ⟨entries, rereads_of_members found body once keys shown fun member among => ?_⟩
      have declared : member ∈ definition.members := Definition.members_of_record body ▸ among
      have founded := founded read compiled inside declared
      obtain ⟨plain, held, shows⟩ := shows member among
      rw [held]
      refine member_rereads (below member declared) founded ?_ shows
      cases stored : record.lookup member.name with
      | none => exact List.forall_mem_nil _
      | some slot =>
          refine (slots member among slot stored).values fun type child vector => ?_
          have compound := founded.compound type child
          rw [vector] at compound
          cases compound

end

theorem Suits.pair {record : WireRecord} (suits : forest.Suits type record) :
    ∃ definition ∈ forest.types, definition.name = type ∧ definition.isPair := by
  cases suits with
  | openMap found body | record found body =>
      have named := List.find?_some found
      simp only [beq_iff_eq] at named
      exact ⟨_, List.mem_of_find?_eq_some found, named, by rw [Definition.isPair, body]⟩

end Forest

/-- The plain document of a record that was read can be read again and comes out as it was, unless
    it shows `null` for a required single member, there or in a record below. Then it is refused for
    want of a value. -/
theorem plain_reads_again {document : Json} {mapping : Mapping} {config : Config} {root : String}
    {forest : Forest} (read : Mapping.ofJson document = .ok mapping)
    (compiled : Forest.ofProperties config root mapping.properties = .ok forest) {type : String}
    {wire : Json} {record : WireRecord} (decoded : forest.decode type wire = .ok record) :
    ∃ plain, forest.toPlain type record = .ok plain ∧
      (¬ forest.Gap type record → ∃ again, forest.ofPlain type plain = .ok again ∧
        forest.toPlain type again = .ok plain) ∧
      (forest.Gap type record → ∃ path typeName, forest.ofPlain type plain =
        .error (.misshaped path .null "present value" typeName)) := by
  have ordered := (Mapping.ofJson_placed read).1
  have suits := Forest.decodeAt_suits ordered compiled "" type wire decoded
  obtain ⟨definition, inside, rfl, pair⟩ := suits.pair
  obtain ⟨entries, rereads⟩ := Forest.repeats read compiled inside pair record suits
  refine ⟨.obj entries, rereads.shown, fun whole => ?_, fun gap => ?_⟩
  · have reads := rereads.reads ""
    cases again : forest.ofPlainAt "" definition.name (.obj entries) with
    | error fault =>
        rw [again] at reads
        cases reads with
        | refused gap => exact absurd gap whole
    | ok record =>
        have returns := Forest.ofPlainAt_returns ordered compiled "" _ _ again
        exact ⟨record, again, rereads.stays ▸ returns.rendered⟩
  · have reads := rereads.reads ""
    rw [Forest.ofPlain]
    generalize forest.ofPlainAt "" definition.name (.obj entries) = result at reads
    cases reads with
    | read none => exact absurd gap none
    | @refused path typeName _ => exact ⟨path, typeName, rfl⟩

namespace Sample

theorem unmanaged_whole : ¬ forest.Gap "Doc" unmanagedRecord := by
  rw [Forest.gap_iff rfl rfl]
  rintro ⟨member, inside, gap⟩
  simp only [List.mem_cons, List.not_mem_nil, or_false] at inside
  rcases inside with rfl | rfl
  · obtain ⟨type, record, child, -⟩ := (Forest.memberGap_list rfl).mp gap
    cases child
  · have below : forest.Gap "Manager" [] :=
      (Forest.memberGap_empty (by rfl) (by rfl) (by rfl) (by decide)).mp gap
    obtain ⟨member, inside, gap⟩ := (Forest.gap_iff rfl rfl).mp below
    simp only [List.mem_cons, List.not_mem_nil, or_false] at inside
    rcases inside with rfl | rfl
    all_goals
      obtain ⟨type, record, child, held, -⟩ := (Forest.memberGap_list rfl).mp gap
      cases held

/-- An index of documents with a shape, which is required and single. -/
def shapeDocument : Json :=
  .obj [("shape", .obj [("type", .str "geo_shape")])]

def shapeProperties : Properties :=
  [("shape", .leaf .geoShape [] ["shape"])]

def shapeConfig : Config :=
  { fields := [("shape", .mk { required := .on, single := .on } [])] }

def shapeMember : Member :=
  ⟨"shape", "shape", .geoShape, { required := true, single := true },
    .scalar "serde_json::Value" .null, .value, .single⟩

def shapeDoc : Definition :=
  { name := "Doc", wireName := "DocRaw", path := ["doc"], kind := .object
    body := .record [shapeMember]
    dependencies := [Compile.fieldScope, Compile.recordScope, Target.jsonScope] }

def shapeForest : Forest := ⟨"Doc", [shapeDoc]⟩

theorem shapes_mapped : Mapping.ofJson shapeDocument = .ok ⟨none, shapeProperties⟩ := by
  with_unfolding_all rfl

theorem shapes_compiled :
    Forest.ofProperties shapeConfig "doc" shapeProperties = .ok shapeForest := by
  with_unfolding_all rfl

theorem noShape_decoded : shapeForest.decode "Doc" (.obj []) = .ok [] := by
  simp [Forest.decode, Forest.decodeAt, Forest.definition, Forest.find?, shapeForest, shapeDoc,
    shapeMember, Forest.decodeMembers]

theorem noShape_shown : shapeForest.toPlain "Doc" [] = .ok (.obj [("shape", .null)]) := by
  simp [Forest.toPlain, Forest.render, Forest.definition, Forest.find?, shapeForest, shapeDoc,
    shapeMember, Forest.renderMembers, Forest.plain, Forest.plainForm, Forest.zeroOf, Slot.first?,
    Slot.toList, Slot.list?, pure, Except.pure]

theorem noShape_refused : shapeForest.ofPlain "Doc" (.obj [("shape", .null)]) =
    .error (.misshaped "shape" .null "present value" "serde_json::Value") := by
  simp [Forest.ofPlain, Forest.ofPlainAt, Forest.definition, Forest.find?, shapeForest, shapeDoc,
    shapeMember, Forest.ofPlainMembers_cons, Forest.ofPlainSlot, Forest.absentSlot,
    Member.plainType, Form.typeText, Element.plain, WireFault.below, bind, Except.bind]

end Sample

theorem sample_plain_reads_again : ∃ plain,
    Sample.forest.toPlain "Doc" Sample.unmanagedRecord = .ok plain ∧
      ∃ again, Sample.forest.ofPlain "Doc" plain = .ok again ∧
        Sample.forest.toPlain "Doc" again = .ok plain := by
  obtain ⟨plain, shown, reads, -⟩ :=
    plain_reads_again Sample.mapped Sample.compiled Sample.unmanaged_read
  exact ⟨plain, shown, reads Sample.unmanaged_whole⟩

/-- A document without a required shape becomes a plain document that is refused. -/
theorem sample_shape_is_refused :
    Mapping.ofJson Sample.shapeDocument = .ok ⟨none, Sample.shapeProperties⟩ ∧
      Forest.ofProperties Sample.shapeConfig "doc" Sample.shapeProperties =
        .ok Sample.shapeForest ∧
      Sample.shapeForest.decode "Doc" (.obj []) = .ok [] ∧
      Sample.shapeForest.toPlain "Doc" [] = .ok (.obj [("shape", .null)]) ∧
      Sample.shapeForest.ofPlain "Doc" (.obj [("shape", .null)]) =
        .error (.misshaped "shape" .null "present value" "serde_json::Value") :=
  ⟨Sample.shapes_mapped, Sample.shapes_compiled, Sample.noShape_decoded, Sample.noShape_shown,
    Sample.noShape_refused⟩

end StoreSchema
