import StoreSchema.Leaf.Plain
import StoreSchema.Proofs.Lists
import StoreSchema.Proofs.Wire.Rendering

/-! # Slots of any type

A slot is read back from what it is written as, whatever type its values have and whether one value
stands for itself or in a list. A value that is a list itself is told from a list of values by its
items, which must not all be values. Only a slot that is missing has no form of its own: in a record
its key is left out.
-/

namespace StoreSchema

namespace Slot

variable {α ε : Type} {typeName : String} {message : ε → String} {read : Json → Except ε α}
  {write : α → Json} {slot : Slot α} {cardinality : Cardinality}

/-- A value is read back from what it is written as, which is neither `null` nor a list that can be
    read value by value. -/
structure ReadBack (read : Json → Except ε α) (write : α → Json) (value : α) : Prop where
  same : read (write value) = .ok value
  notNull : write value ≠ .null
  whole : ∀ items, write value = .arr items → ¬ ∀ item ∈ items, ∃ other, read item = .ok other

/-! ## Alone -/

theorem ofJson_values {values : List α} (each : ∀ value ∈ values, read (write value) = .ok value) :
    ofJson typeName message read (.arr (values.map write)) = .ok (.present values) := by
  have all : (values.map write).mapM read = .ok values := by
    rw [Outcome.mapM_eq_ok, List.forall₂_map_left_iff, List.forall₂_same]
    exact each
  rw [ofJson, all]

theorem ofJson_value {value : α} (back : ReadBack read write value) :
    ofJson typeName message read (write value) = .ok (.present [value]) := by
  have same := back.same
  cases written : write value with
  | null => exact absurd written back.notNull
  | arr items =>
      rw [written] at same
      rw [ofJson]
      cases all : items.mapM read with
      | error fault => simp only [same]
      | ok values =>
          refine absurd ?_ (back.whole items written)
          intro item inside
          obtain ⟨other, -, itemRead⟩ := Lists.exists_right (Outcome.mapM_eq_ok.mp all) inside
          exact ⟨other, itemRead⟩
  | bool _ | int _ | float _ | str _ | obj _ =>
      rw [written] at same
      simp only [ofJson, same]

theorem ofJson_toJson (values : ∀ value ∈ slot.toList, ReadBack read write value)
    (present : slot ≠ .undefined) :
    ofJson typeName message read ((slot.map write).toJson cardinality) = .ok slot := by
  match slot, cardinality with
  | .undefined, _ => exact absurd rfl present
  | .null, _ => rfl
  | .present [value], .single => exact ofJson_value (values value List.mem_cons_self)
  | .present [value], .array => exact ofJson_values fun value inside => (values value inside).same
  | .present [], _ | .present (_ :: _ :: _), _ =>
      exact ofJson_values fun value inside => (values value inside).same

/-! ## In records -/

/-- The slot of a member of a record: a key that is not there is a slot that is missing. -/
def ofEntry (typeName : String) (message : ε → String) (read : Json → Except ε α) :
    Option Json → Except ShapeError (Slot α)
  | none => .ok .undefined
  | some raw => ofJson typeName message read raw

/-- What a member becomes in a record: one entry, or none if its slot is missing. -/
def entries (member : String × Slot Json × Cardinality) : List (String × Json) :=
  if member.2.1.isUndefined then [] else [(member.1, member.2.1.toJson member.2.2)]

theorem recordJson_eq (members : List (String × Slot Json × Cardinality)) :
    recordJson members = .obj (members.flatMap entries) := by
  refine congrArg Json.obj ?_
  induction members with
  | nil => rfl
  | cons member rest ih =>
      obtain ⟨name, slot, cardinality⟩ := member
      rw [List.flatMap_cons, List.filterMap_cons, ih]
      cases slot <;> rfl

theorem fst_of_mem_entries (member : String × Slot Json × Cardinality) :
    ∀ entry ∈ entries member, entry.1 = member.1 := by
  unfold entries
  split <;> simp

theorem recordJson_undefined (before after : List (String × Slot Json × Cardinality))
    (name : String) :
    recordJson (before ++ (name, .undefined, cardinality) :: after) =
      recordJson (before ++ after) := by
  have none : entries (name, .undefined, cardinality) = [] := rfl
  rw [recordJson_eq, recordJson_eq, List.flatMap_append, List.flatMap_cons, none,
    List.nil_append, List.flatMap_append]

theorem ofEntry_record (values : ∀ value ∈ slot.toList, ReadBack read write value)
    {members : List (String × Slot Json × Cardinality)} (once : (members.map Prod.fst).Nodup)
    {name : String} (inside : (name, slot.map write, cardinality) ∈ members) :
    ofEntry typeName message read ((members.flatMap entries).lookup name) = .ok slot := by
  have found := Keyed.lookup_flatMap once (fun member _ => fst_of_mem_entries member) inside
  rw [found]
  cases slot with
  | undefined => rfl
  | null =>
      simp only [entries, map, isUndefined, Bool.false_eq_true, if_false, List.lookup_cons_self]
      rfl
  | present _ =>
      simp only [entries, map, isUndefined, Bool.false_eq_true, if_false, List.lookup_cons_self]
      exact ofJson_toJson values (by simp)

/-- A slot is read back from its document, unless it is missing, and from a record that it is
    written in, also if it is missing. -/
structure Returns (typeName : String) (message : ε → String) (read : Json → Except ε α)
    (write : α → Json) (slot : Slot α) (cardinality : Cardinality) : Prop where
  alone : slot ≠ .undefined →
    ofJson typeName message read ((slot.map write).toJson cardinality) = .ok slot
  undefined : slot = .undefined →
    ofJson typeName message read ((slot.map write).toJson cardinality) = .ok .null
  omitted : slot = .undefined → ∀ before after name,
    recordJson (before ++ (name, slot.map write, cardinality) :: after) =
      recordJson (before ++ after)
  within : ∀ members name, (members.map Prod.fst).Nodup →
    (name, slot.map write, cardinality) ∈ members → ∃ written, recordJson members = .obj written ∧
      ofEntry typeName message read (written.lookup name) = .ok slot

end Slot

/-- Slots of any type are read back from what they are written as, if their values are. -/
theorem slots_read_back {α ε : Type} (typeName : String) (message : ε → String)
    {read : Json → Except ε α} {write : α → Json} {slot : Slot α}
    (values : ∀ value ∈ slot.toList, Slot.ReadBack read write value) (cardinality : Cardinality) :
    slot.Returns typeName message read write cardinality where
  alone := Slot.ofJson_toJson values
  undefined := by
    rintro rfl
    rfl
  omitted := by
    rintro rfl before after name
    exact Slot.recordJson_undefined before after name
  within := by
    intro members name once inside
    exact ⟨_, Slot.recordJson_eq members, Slot.ofEntry_record values once inside⟩

namespace Sample

/-- The double 1. -/
def one : Binary64 := .finite false (2 ^ 52) (-52)

/-- A vector as a document. -/
def vectorJson (vector : List Binary64) : Json :=
  .arr (vector.map Json.ofDouble)

theorem vector_back : Slot.ReadBack (Leaf.list Leaf.double) vectorJson [one, one] where
  same := rfl
  notNull := by simp [vectorJson]
  whole := by
    intro items written all
    cases written
    obtain ⟨other, read⟩ := all _ List.mem_cons_self
    cases read

end Sample

theorem sample_slots_read_back :
    Slot.ofJson "vector" Decoding.Cause.message (Leaf.list Leaf.double)
        (Sample.vectorJson [Sample.one, Sample.one]) =
      .ok (.present [[Sample.one, Sample.one]]) := by
  have values : ∀ vector ∈ (Slot.present [[Sample.one, Sample.one]]).toList,
      Slot.ReadBack (Leaf.list Leaf.double) Sample.vectorJson vector := by
    intro vector inside
    cases List.mem_singleton.mp inside
    exact Sample.vector_back
  exact (slots_read_back "vector" Decoding.Cause.message values .single).alone (by simp)

end StoreSchema
