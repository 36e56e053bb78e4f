import StoreSchema.Proofs.Outcome
import StoreSchema.Proofs.Schema.Walk

/-! # Mappings that were read

A mapping document that can be read becomes a tree with ascending siblings, in which every field has
the path of its names, and the fields of a compound kind are those that have fields of their own.
-/

namespace StoreSchema

/-! ## Compound kinds -/

mutual

/-- The fields of a compound kind are those that have fields of their own, at every level of the
    tree. -/
def Node.Kinded : Node → Prop
  | .leaf kind _ _ => kind.isCompound = false
  | .compound kind _ _ _ properties => kind.isCompound ∧ Properties.Kinded properties

/-- Of the fields at and below declared ones, those of a compound kind have fields of their own. -/
def Properties.Kinded : Properties → Prop
  | [] => True
  | (_, field) :: rest => field.Kinded ∧ Properties.Kinded rest

end

theorem Properties.kinded_iff {properties : Properties} :
    properties.Kinded ↔ ∀ entry ∈ properties, entry.2.Kinded := by
  induction properties with
  | nil => simp [Properties.Kinded]
  | cons entry rest ih => simp only [Properties.Kinded, ih, List.forall_mem_cons]

theorem Node.kinded_of_walk {names : FieldPath} {inherited : Option Dynamic} {tree : Node}
    (kinded : tree.Kinded) : ∀ site ∈ tree.walk names inherited, site.node.Kinded :=
  Node.forall_walk (fun _ field => field.Kinded)
    (fun above => Properties.kinded_iff.mp above.2) names inherited tree kinded

namespace Schema

/-- What every descriptor gives to the field that is read from it, if it gives it to the fields
    below. -/
structure Given (holds : FieldPath → Node → Prop) : Prop where
  leaf : ∀ {kind params path}, kind.isCompound = false → holds path (.leaf kind params path)
  compound : ∀ {kind params path dynamic fields}, kind.isCompound → Keyed.Ascending fields →
    (∀ entry ∈ fields, holds (path ++ [entry.1]) entry.2) →
      holds path (.compound kind params path dynamic fields)

/-- Fields in ascending order that all have what descriptors give. -/
structure Fields (holds : FieldPath → Node → Prop) (parent : FieldPath) (fields : Properties) :
    Prop where
  ascending : Keyed.Ascending fields
  each : ∀ entry ∈ fields, holds (parent ++ [entry.1]) entry.2

section

variable {holds : FieldPath → Node → Prop} {parent : FieldPath}

theorem Fields.nil : Fields holds parent [] := ⟨.nil, by simp⟩

theorem Fields.insert {fields : Properties} (known : Fields holds parent fields) {name : String}
    {field : Node} (new : holds (parent ++ [name]) field) :
    Fields holds parent (Keyed.insert name field fields) := by
  refine ⟨known.ascending.insert name field, ?_⟩
  intro entry member
  cases Keyed.mem_of_mem_insert member with
  | inl same => exact same ▸ new
  | inr old => exact known.each entry old

mutual

theorem node_given (given : Given holds) (path : FieldPath) (descriptor : Json) (tree : Node)
    (read : Schema.node path descriptor = .ok tree) : holds path tree := by
  match descriptor with
  | .obj members =>
      rw [Schema.node] at read
      obtain ⟨kind, -, rest⟩ := Outcome.bind_eq_ok.mp read
      split at rest
      next compound =>
        obtain ⟨dynamic, -, rest⟩ := Outcome.bind_eq_ok.mp rest
        obtain ⟨fields, below, rest⟩ := Outcome.bind_eq_ok.mp rest
        cases Outcome.pure_eq_ok.mp rest
        have known := declared_given given path members fields below
        exact given.compound compound known.ascending known.each
      next plain =>
        split at rest
        next => cases rest
        next =>
          cases Outcome.pure_eq_ok.mp rest
          exact given.leaf (eq_false_of_ne_true plain)
  | .null | .bool _ | .int _ | .float _ | .str _ | .arr _ => simp [Schema.node] at read

theorem declared_given (given : Given holds) (path : FieldPath) (descriptor : List (String × Json))
    (fields : Properties) (read : Schema.declared path descriptor = .ok fields) :
    Fields holds path fields := by
  match descriptor with
  | [] =>
      cases read
      exact .nil
  | (key, value) :: rest =>
      unfold Schema.declared at read
      split at read
      next =>
        split at read
        next =>
          cases read
          exact .nil
        next members => exact properties_given given path members fields read
        next => cases read
      next => exact declared_given given path rest fields read

theorem properties_given (given : Given holds) (parent : FieldPath) (descriptors : List (String × Json))
    (fields : Properties) (read : Schema.properties parent descriptors = .ok fields) :
    Fields holds parent fields := by
  match descriptors with
  | [] =>
      cases read
      exact .nil
  | (name, descriptor) :: rest =>
      rw [Schema.properties] at read
      obtain ⟨first, firstRead, read⟩ := Outcome.bind_eq_ok.mp read
      obtain ⟨others, othersRead, read⟩ := Outcome.bind_eq_ok.mp read
      cases Outcome.pure_eq_ok.mp read
      exact (properties_given given parent rest others othersRead).insert
        (node_given given (parent ++ [name]) descriptor first firstRead)

end

end

end Schema

namespace Mapping

section

variable {holds : FieldPath → Node → Prop} (given : Schema.Given holds)

include given

theorem bodyFields_given {body : Json} {fields : Properties}
    (read : bodyFields body = .ok fields) : Schema.Fields holds [] fields := by
  unfold bodyFields at read
  split at read
  next =>
    split at read
    next => exact Schema.properties_given given [] _ fields read
    all_goals cases read
    all_goals exact .nil
  next =>
    cases read
    exact .nil

theorem ofJson_given {document : Json} {mapping : Mapping}
    (read : Mapping.ofJson document = .ok mapping) :
    Schema.Fields holds [] mapping.properties := by
  unfold Mapping.ofJson at read
  split at read
  next =>
    split at read
    all_goals
      obtain ⟨fields, below, rest⟩ := Outcome.bind_eq_ok.mp read
      cases Outcome.pure_eq_ok.mp rest
    · exact Schema.properties_given given [] _ fields below
    · exact Schema.properties_given given [] _ fields below
    · exact bodyFields_given given below
    · exact bodyFields_given given below
  next => cases read

end

theorem ordered_given : Schema.Given fun _ field => field.Ordered where
  leaf := by
    intro kind params path _
    rw [Node.Ordered]
    trivial
  compound := by
    intro kind params path dynamic fields _ ascending each
    rw [Node.Ordered]
    exact Properties.ordered_iff.mpr ⟨ascending, each⟩

theorem placed_given : Schema.Given fun path field => field.Placed path where
  leaf := by
    intro kind params path _
    rw [Node.Placed]
  compound := by
    intro kind params path dynamic fields _ _ each
    rw [Node.Placed]
    exact ⟨rfl, Properties.placed_iff.mpr each⟩

theorem kinded_given : Schema.Given fun _ field => field.Kinded where
  leaf := by
    intro kind params path plain
    rw [Node.Kinded]
    exact plain
  compound := by
    intro kind params path dynamic fields compound _ each
    rw [Node.Kinded]
    exact ⟨compound, Properties.kinded_iff.mpr each⟩

/-- The fields of a mapping that was read are in order, and their paths are their names. -/
theorem ofJson_placed {document : Json} {mapping : Mapping}
    (read : Mapping.ofJson document = .ok mapping) :
    mapping.properties.Ordered ∧ mapping.properties.Placed [] := by
  have ordered := ofJson_given ordered_given read
  have placed := ofJson_given placed_given read
  exact ⟨Properties.ordered_iff.mpr ⟨ordered.ascending, ordered.each⟩,
    Properties.placed_iff.mpr placed.each⟩

theorem ofJson_kinded {document : Json} {mapping : Mapping}
    (read : Mapping.ofJson document = .ok mapping) : mapping.properties.Kinded :=
  Properties.kinded_iff.mpr (ofJson_given kinded_given read).each

end Mapping

end StoreSchema
