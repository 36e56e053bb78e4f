import StoreSchema.Proofs.Keyed
import StoreSchema.Wire.Record

/-! # Conforming wire records

A wire record conforms to a definition if its slots belong to members and hold what fits them, at
every level. Slots that are missing do not count: a record is told by what is left without them.
-/

namespace StoreSchema

/-! ## Conforming records -/

/-- Whether a value is neither `null` nor a list, so that it can stand for itself in a slot. -/
def Json.isBare : Json → Bool
  | .null | .arr _ => false
  | _ => true

mutual

/-- A record has slots for members of a definition only, with values that fit them. Dense vectors
    are left out: their one value is a list. -/
inductive Forest.Conforms (forest : Forest) : Definition → WireRecord → Prop where
  | openMap {definition : Definition} {record : WireRecord} (body : definition.body = .openMap)
      (ascending : Keyed.Ascending record)
      (values : ∀ slot ∈ record.map Prod.snd, ∀ value ∈ slot.toList, Forest.Fits forest none value) :
      Forest.Conforms forest definition record
  | record {definition : Definition} {record : WireRecord} {members : List Member}
      (body : definition.body = .record members) (ascending : Keyed.Ascending record)
      (declared : ∀ name ∈ record.map Prod.fst, name ∈ members.map Member.name)
      (notVector : ∀ member ∈ members, member.name ∈ record.map Prod.fst →
        member.kind ≠ .denseVector)
      (values : ∀ member ∈ members, ∀ slot, record.lookup member.name = some slot →
        ∀ value ∈ slot.toList, Forest.Fits forest member.child? value) :
      Forest.Conforms forest definition record

/-- A value is a leaf, or a record that conforms to the type of the records that belong there. -/
inductive Forest.Fits (forest : Forest) : Option String → WireValue → Prop where
  | leaf {value : Json} (bare : value.isBare) : Forest.Fits forest none (.leaf value)
  | record {child : Definition} {members : WireRecord} (inside : child ∈ forest.types)
      (conforms : Forest.Conforms forest child members) :
      Forest.Fits forest (some child.name) (.record members)

end

/-! ## Records without missing slots -/

mutual

/-- A value without the slots that are missing, at every level. -/
def WireValue.defined : WireValue → WireValue
  | .leaf value => .leaf value
  | .record members => .record (WireRecord.defined members)

/-- A record without the slots that are missing, at every level. -/
def WireRecord.defined : WireRecord → WireRecord
  | [] => []
  | (_, .undefined) :: rest => WireRecord.defined rest
  | (name, .null) :: rest => (name, .null) :: WireRecord.defined rest
  | (name, .present values) :: rest =>
    (name, .present (WireValue.definedAll values)) :: WireRecord.defined rest

/-- Values without the slots that are missing, at every level. -/
def WireValue.definedAll : List WireValue → List WireValue
  | [] => []
  | value :: rest => value.defined :: WireValue.definedAll rest

end

/-- What stays of a slot: nothing of one that is missing, else the slot with its values. -/
def Slot.kept : Slot WireValue → Option (Slot WireValue)
  | .undefined => none
  | .null => some .null
  | .present values => some (.present (WireValue.definedAll values))

theorem WireValue.definedAll_leaves (items : List Json) :
    WireValue.definedAll (items.map .leaf) = items.map .leaf := by
  induction items with
  | nil => rfl
  | cons item rest ih => rw [List.map_cons, definedAll, ih, WireValue.defined]

namespace WireRecord

theorem defined_cons (name : String) (slot : Slot WireValue) (rest : WireRecord) :
    defined ((name, slot) :: rest) =
      (slot.kept.map (name, ·)).toList ++ defined rest := by
  cases slot <;> rfl

theorem mem_keys_of_defined {record : WireRecord} {name : String}
    (member : name ∈ (defined record).map Prod.fst) : name ∈ record.map Prod.fst := by
  induction record with
  | nil => exact member
  | cons entry rest ih =>
      obtain ⟨key, slot⟩ := entry
      rw [defined_cons, List.map_append] at member
      cases List.mem_append.mp member with
      | inl first =>
          have same : name = key := by
            cases kept : slot.kept with
            | none => simp [kept] at first
            | some value => simpa [kept] using first
          exact same ▸ List.mem_cons_self
      | inr later => exact List.mem_cons_of_mem key (ih later)

theorem defined_ascending {record : WireRecord} (ascending : Keyed.Ascending record) :
    Keyed.Ascending (defined record) := by
  induction record with
  | nil => exact .nil
  | cons entry rest ih =>
      obtain ⟨key, slot⟩ := entry
      rw [defined_cons]
      cases slot.kept with
      | none => exact ih ascending.tail
      | some value =>
          exact List.pairwise_cons.mpr
            ⟨fun name member => ascending.head_lt name (mem_keys_of_defined member),
              ih ascending.tail⟩

theorem lookup_defined {record : WireRecord} (ascending : Keyed.Ascending record) (name : String) :
    (defined record).lookup name = (record.lookup name).bind Slot.kept := by
  induction record with
  | nil => rfl
  | cons entry rest ih =>
      obtain ⟨key, slot⟩ := entry
      rw [defined_cons, List.lookup_append]
      by_cases same : name = key
      · subst same
        have absent : (defined rest).lookup name = none :=
          Keyed.lookup_eq_none_of_not_mem fun member =>
            lt_irrefl name (ascending.head_lt name (mem_keys_of_defined member))
        rw [absent, List.lookup_cons_self, Option.or_none]
        cases kept : slot.kept <;> simp [kept]
      · rw [Keyed.lookup_cons_of_ne same, ← ih ascending.tail]
        cases slot.kept with
        | none => rfl
        | some value => simp [Keyed.lookup_cons_of_ne same]

end WireRecord

end StoreSchema
