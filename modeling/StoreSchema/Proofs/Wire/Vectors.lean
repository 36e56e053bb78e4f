import StoreSchema.Leaf.Plain
import StoreSchema.Proofs.Types.Kinds
import StoreSchema.Proofs.Wire.Usable

/-! # Vectors in slots

A list under the name of a member for vectors is one vector or a list of vectors. A slot of vectors
tries the list of vectors first and one vector then; the slot of a member takes a list of numbers
for one vector first. Both have the same state and as many elements, one for one, unless the list is
empty: that is no vector at all for the one and an empty vector for the other.
-/

namespace StoreSchema

/-- Two slots are in the same state, with as many elements that are related one by one. -/
inductive Slot.Related {α β : Type} (related : α → β → Prop) : Slot α → Slot β → Prop where
  | undefined : Slot.Related related .undefined .undefined
  | null : Slot.Related related .null .null
  | present {left : List α} {right : List β} (each : List.Forall₂ related left right) :
      Slot.Related related (.present left) (.present right)

namespace Leaf

/-- A value is a vector: it is a list of numbers, and these are the elements of the vector. -/
def IsVector (raw : Json) (numbers : List Binary64) : Prop :=
  ∃ items, raw = .arr items ∧
    List.Forall₂ (fun item number => item.double? = some number) items numbers

theorem double_eq_ok {raw : Json} {number : Binary64} :
    double raw = .ok number ↔ raw.double? = some number := by
  unfold double
  cases raw.double? <;> simp

theorem list_double_eq_ok {raw : Json} {numbers : List Binary64} :
    list double raw = .ok numbers ↔ IsVector raw numbers := by
  unfold IsVector
  cases raw with
  | arr items =>
      rw [list, Outcome.mapM_eq_ok]
      simp only [double_eq_ok, Json.arr.injEq]
      constructor
      · intro each
        exact ⟨items, rfl, each⟩
      · rintro ⟨others, rfl, each⟩
        exact each
  | null | bool _ | int _ | float _ | str _ | obj _ => simp [list]

theorem isNumber_of_double? {raw : Json} {number : Binary64} (read : raw.double? = some number) :
    raw.isNumber := by
  cases raw <;> first | rfl | cases read

theorem IsVector.isVector {raw : Json} {numbers : List Binary64} (vector : IsVector raw numbers) :
    Forest.isVector raw := by
  obtain ⟨items, rfl, each⟩ := vector
  rw [Forest.isVector, List.all_eq_true]
  intro item inside
  obtain ⟨number, -, read⟩ := Lists.exists_right each inside
  exact isNumber_of_double? read

end Leaf

open Leaf (IsVector)

/-! ## Two readings -/

theorem Forest.not_isVector {items : List Json} {vectors : List (List Binary64)}
    (each : List.Forall₂ IsVector items vectors) (nonempty : items ≠ []) :
    Forest.isVector (.arr items) = false := by
  cases each with
  | nil => exact absurd rfl nonempty
  | @cons item _ _ _ head _ =>
      obtain ⟨numbers, rfl, -⟩ := head
      rfl

/-- Where a slot of vectors is read, the slot of leaves has the same state, and its elements are the
    same vectors, but for the empty list. -/
theorem Slot.related_vectors {typeName : String} {raw : Json} {slot : Slot (List Binary64)}
    (read : ofJson typeName Decoding.Cause.message (Leaf.list Leaf.double) raw = .ok slot) :
    (Slot.ofLeaf Forest.isVector raw).Related IsVector slot ↔ raw ≠ .arr [] := by
  cases raw with
  | null =>
      cases read
      exact iff_of_true .null (by simp)
  | arr items =>
      rw [Slot.ofJson] at read
      split at read
      next vectors all =>
        cases read
        have each : List.Forall₂ IsVector items vectors :=
          (Outcome.mapM_eq_ok.mp all).imp fun _ _ => Leaf.list_double_eq_ok.mp
        by_cases none : items = []
        · subst none
          refine iff_of_false ?_ (by simp)
          intro related
          cases each
          cases related with
          | present both => cases both
        · refine iff_of_true ?_ (by simpa using none)
          rw [Slot.ofLeaf, Forest.not_isVector each none]
          exact .present each
      next =>
        split at read
        next numbers one =>
          cases read
          have vector := Leaf.list_double_eq_ok.mp one
          refine iff_of_true ?_ ?_
          · rw [Slot.ofLeaf, if_pos vector.isVector]
            exact .present (.cons vector .nil)
          · rintro same
            cases same
            contradiction
        next => cases read
  | bool _ | int _ | float _ | str _ | obj _ => cases read

/-! ## Members for vectors -/

namespace Forest

variable {forest : Forest} {member : Member}

theorem isLeafList_vector (kind : member.kind = .denseVector) :
    isLeafList member.kind = isVector := by
  funext raw
  simp [isLeafList, kind]

/-- A slot is what a document has under the name of a member, whatever else it has. -/
structure ReadsMember (forest : Forest) (type name : String) (raw : Json)
    (slot : Slot WireValue) : Prop where
  alone : forest.decode type (.obj [(name, raw)]) = .ok [(name, slot)]
  among : ∀ entries record, entries.lookup name = some raw →
    forest.decode type (.obj entries) = .ok record → record.lookup name = some slot

theorem readsMember_leaves {definition : Definition} {members : List Member}
    (found : forest.find? definition.name = some definition)
    (body : definition.body = .record members) (once : (members.map Member.name).Nodup)
    (declared : member ∈ members) (child : member.child? = none) (raw : Json) :
    forest.ReadsMember definition.name member.name raw
      ((Slot.ofLeaf (isLeafList member.kind) raw).map .leaf) := by
  have own : ∀ entries : List (String × Json), entries.lookup member.name = some raw →
      readMember forest "" entries member =
        .ok (some ((Slot.ofLeaf (isLeafList member.kind) raw).map .leaf)) := by
    intro entries value
    rw [readMember, value]
    simp only [decodeSlot_leaves child]
    rfl
  have unfolded : ∀ entries, forest.decode definition.name (.obj entries) =
      decodeMembers forest "" entries members := by
    intro entries
    rw [decode, decodeAt, definition_ok found]
    simp only [body]
  constructor
  · rw [unfolded]
    refine decodeMembers_ok (List.pairwise_singleton _ _) ?_ ?_
    · intro name inside
      cases List.mem_singleton.mp inside
      exact List.mem_map_of_mem declared
    · intro other inside
      by_cases same : other.name = member.name
      · cases List.inj_on_of_nodup_map once inside declared same
        rw [own _ List.lookup_cons_self, List.lookup_cons_self]
      · rw [readMember, Keyed.lookup_cons_of_ne same, Keyed.lookup_cons_of_ne same]
        rfl
  · intro entries record value read
    rw [unfolded] at read
    have slots := (decodeMembers_slots once read).2 member declared
    rw [own entries value] at slots
    exact (Except.ok.inj slots).symm

end Forest

/-- What is read as a slot of vectors is read alike under the name of a member for vectors, unless
    it is the empty list. -/
theorem vectors_read_alike {document : Json} {mapping : Mapping} {config : Config} {root : String}
    {forest : Forest} (read : Mapping.ofJson document = .ok mapping)
    (compiled : Forest.ofProperties config root mapping.properties = .ok forest)
    {definition : Definition} (inside : definition ∈ forest.types) {members : List Member}
    (body : definition.body = .record members) {member : Member} (declared : member ∈ members)
    (kind : member.kind = .denseVector) {typeName : String} {raw : Json}
    {slot : Slot (List Binary64)}
    (container :
      Slot.ofJson typeName Decoding.Cause.message (Leaf.list Leaf.double) raw = .ok slot) :
    ∃ held : Slot Json, forest.ReadsMember definition.name member.name raw (held.map .leaf) ∧
      (held.Related Leaf.IsVector slot ↔ raw ≠ .arr []) := by
  have child : member.child? = none := by
    cases holds : member.child? with
    | none => rfl
    | some type =>
        obtain ⟨wire, element⟩ := Forest.element_of_child holds
        have other := (Forest.compoundKinds read compiled).not_vector inside
          (Definition.members_of_record body ▸ declared) element
        exact absurd kind other
  obtain ⟨ordered, -⟩ := Mapping.ofJson_placed read
  have once := Forest.names_nodup ordered compiled inside body
  have found := Forest.find?_eq_some compiled inside
  have reads := Forest.readsMember_leaves found body once declared child raw
  rw [Forest.isLeafList_vector kind] at reads
  exact ⟨Slot.ofLeaf Forest.isVector raw, reads, Slot.related_vectors container⟩

namespace Sample

/-- An index of documents with vectors, optional and many. -/
def vectorDocument : Json :=
  .obj [("v", .obj [("type", .str "dense_vector")])]

def vectorProperties : Properties :=
  [("v", .leaf .denseVector [] ["v"])]

def vectorMember : Member :=
  ⟨"v", "v", .denseVector, {}, .scalar "Vec<f64>" (.arr []), .optionalList, .array⟩

def vectorDoc : Definition :=
  { name := "Doc", wireName := "DocRaw", path := ["doc"], kind := .object
    body := .record [vectorMember]
    dependencies := [Compile.fieldScope, Compile.recordScope] }

def vectorForest : Forest := ⟨"Doc", [vectorDoc]⟩

theorem vectors_mapped : Mapping.ofJson vectorDocument = .ok ⟨none, vectorProperties⟩ := by
  with_unfolding_all rfl

theorem vectors_compiled : Forest.ofProperties {} "doc" vectorProperties = .ok vectorForest := by
  with_unfolding_all rfl

/-- Two vectors, of which the second is empty. -/
def twoVectors : Json :=
  .arr [.arr [.int 1, .int 2], .arr []]

theorem twoVectors_read :
    Slot.ofJson "vectors" Decoding.Cause.message (Leaf.list Leaf.double) twoVectors =
      .ok (.present [[Binary64.ofInt 1, Binary64.ofInt 2], []]) := rfl

theorem noVectors_decoded : vectorForest.decode "Doc" (.obj [("v", .arr [])]) =
    .ok [("v", .present [.leaf (.arr [])])] := by
  simp [Forest.decode, Forest.decodeAt, Forest.definition, Forest.find?, vectorForest, vectorDoc,
    vectorMember, Forest.decodeMembers, Forest.decodeSlot, Forest.isLeafList, Forest.isVector,
    Keyed.insert, List.lookup_cons, pure, Except.pure]

theorem noVectors_rendered (style : Forest.Rendering) :
    vectorForest.render style "Doc" [("v", .present [.leaf (.arr [])])] =
      (style.member vectorMember (.present [.arr []])).map fun members => .obj (members ++ []) := by
  simp [Forest.render, Forest.definition, Forest.find?, vectorForest, vectorDoc, vectorMember,
    Forest.renderMembers, Forest.renderSlot, Forest.renderValues, List.lookup_cons, pure,
    Except.pure]
  cases style.member _ _ <;> rfl

end Sample

theorem sample_vectors_read_alike : ∃ held : Slot Json,
    Sample.vectorForest.ReadsMember "Doc" "v" Sample.twoVectors (held.map .leaf) ∧
      held.Related Leaf.IsVector
        (.present [[Binary64.ofInt 1, Binary64.ofInt 2], []]) := by
  obtain ⟨held, reads, alike⟩ := vectors_read_alike Sample.vectors_mapped Sample.vectors_compiled
    List.mem_cons_self rfl List.mem_cons_self rfl Sample.twoVectors_read
  exact ⟨held, reads, alike.mpr (by simp [Sample.twoVectors])⟩

/-- A list without vectors is read as one empty vector, and so it is stored and shown. -/
theorem sample_empty_list_becomes_vector :
    Mapping.ofJson Sample.vectorDocument = .ok ⟨none, Sample.vectorProperties⟩ ∧
      Forest.ofProperties {} "doc" Sample.vectorProperties = .ok Sample.vectorForest ∧
      Slot.ofJson "vectors" Decoding.Cause.message (Leaf.list Leaf.double) (.arr []) =
        .ok (.present []) ∧
      Sample.vectorForest.decode "Doc" (.obj [("v", .arr [])]) =
        .ok [("v", .present [.leaf (.arr [])])] ∧
      Sample.vectorForest.encode "Doc" [("v", .present [.leaf (.arr [])])] =
        .ok (.obj [("v", .arr [.arr []])]) ∧
      Sample.vectorForest.toPlain "Doc" [("v", .present [.leaf (.arr [])])] =
        .ok (.obj [("v", .arr [.arr []])]) :=
  ⟨Sample.vectors_mapped, Sample.vectors_compiled, rfl, Sample.noVectors_decoded,
    (Sample.noVectors_rendered _).trans rfl, (Sample.noVectors_rendered _).trans rfl⟩

end StoreSchema
