import Mathlib.Data.List.Nodup
import StoreSchema.Config
import StoreSchema.Proofs.Keyed
import StoreSchema.Schema.Mapping

/-! # Walking a schema tree

The sites of a schema tree in the order of a walk from the top down, siblings as they stand, with
nothing below a field that accepts undeclared keys. In a tree with ascending siblings no two sites
have the same names.
-/

namespace StoreSchema

/-! ## Trees in order -/

mutual

/-- Siblings stand in ascending order of their names, at every level of the tree. -/
def Node.Ordered : Node → Prop
  | .leaf _ _ _ => True
  | .compound _ _ _ _ properties => Properties.Ordered properties

/-- Declared fields stand in ascending order of their names, and so do those below them. -/
def Properties.Ordered : Properties → Prop
  | [] => True
  | (name, field) :: rest =>
    (∀ other ∈ rest.map Prod.fst, name < other) ∧ field.Ordered ∧ Properties.Ordered rest

end

theorem Properties.ordered_iff {properties : Properties} :
    properties.Ordered ↔
      Keyed.Ascending properties ∧ ∀ entry ∈ properties, entry.2.Ordered := by
  induction properties with
  | nil => simp [Properties.Ordered, Keyed.Ascending]
  | cons entry rest ih =>
      simp only [Properties.Ordered, ih, Keyed.Ascending, List.map_cons, List.pairwise_cons,
        List.forall_mem_cons]
      tauto

mutual

/-- Every field has the path that its names make. -/
def Node.Placed (names : FieldPath) : Node → Prop
  | .leaf _ _ path => path = names
  | .compound _ _ path _ properties => path = names ∧ Properties.Placed names properties

/-- Declared fields have the paths that their names make below those of their parent. -/
def Properties.Placed (parent : FieldPath) : Properties → Prop
  | [] => True
  | (name, field) :: rest =>
    field.Placed (parent ++ [name]) ∧ Properties.Placed parent rest

end

theorem Properties.placed_iff {parent : FieldPath} {properties : Properties} :
    properties.Placed parent ↔ ∀ entry ∈ properties, entry.2.Placed (parent ++ [entry.1]) := by
  induction properties with
  | nil => simp [Properties.Placed]
  | cons entry rest ih => simp only [Properties.Placed, ih, List.forall_mem_cons]

/-! ## Sites -/

/-- A field of a schema tree with what stands above it. -/
structure Site where
  /-- The names from the top down to the field. -/
  names : FieldPath
  node : Node
  /-- The nearest treatment of undeclared keys, its own or that of a field above it. -/
  treatment : Option Dynamic

mutual

/-- The sites at and below a field. -/
def Node.walk (names : FieldPath) (inherited : Option Dynamic) : Node → List Site
  | .leaf kind params path => [⟨names, .leaf kind params path, inherited⟩]
  | .compound kind params path dynamic properties =>
    ⟨names, .compound kind params path dynamic properties, dynamic.or inherited⟩ ::
      if dynamic.or inherited = some .accepted then []
      else Properties.walk names (dynamic.or inherited) properties

/-- The sites at and below declared fields. -/
def Properties.walk (parent : FieldPath) (inherited : Option Dynamic) : Properties → List Site
  | [] => []
  | (name, field) :: rest =>
    field.walk (parent ++ [name]) inherited ++ Properties.walk parent inherited rest

end

/-- The top of a mapping as a field: a record without a treatment of undeclared keys. -/
def Properties.top (properties : Properties) : Node :=
  .compound .object [] [] none properties

/-- What passes from a field to the fields below it. -/
def Inherits (holds : FieldPath → Node → Prop) : Prop :=
  ∀ {names kind params path dynamic properties},
    holds names (.compound kind params path dynamic properties) →
      ∀ entry ∈ properties, holds (names ++ [entry.1]) entry.2

mutual

/-- What holds at the top and passes from fields to the fields below them holds at every site. -/
theorem Node.forall_walk (holds : FieldPath → Node → Prop) (inherits : Inherits holds)
    (names : FieldPath) (inherited : Option Dynamic) (tree : Node)
    (top : holds names tree) :
    ∀ site ∈ tree.walk names inherited, holds site.names site.node := by
  match tree with
  | .leaf kind params path =>
      intro site member
      rw [Node.walk] at member
      cases List.mem_singleton.mp member
      exact top
  | .compound kind params path dynamic properties =>
      intro site member
      rw [Node.walk] at member
      cases List.mem_cons.mp member with
      | inl same =>
          subst same
          exact top
      | inr below =>
          split at below
          next => simp at below
          next =>
            exact Properties.forall_walk holds inherits names (dynamic.or inherited) properties
              (inherits top) site below

theorem Properties.forall_walk (holds : FieldPath → Node → Prop) (inherits : Inherits holds)
    (parent : FieldPath) (inherited : Option Dynamic)
    (properties : Properties) (each : ∀ entry ∈ properties, holds (parent ++ [entry.1]) entry.2) :
    ∀ site ∈ properties.walk parent inherited, holds site.names site.node := by
  match properties with
  | [] =>
      intro site member
      simp [Properties.walk] at member
  | (name, field) :: rest =>
      intro site member
      rw [Properties.walk] at member
      obtain ⟨first, later⟩ := List.forall_mem_cons.mp each
      cases List.mem_append.mp member with
      | inl here =>
          exact Node.forall_walk holds inherits (parent ++ [name]) inherited field first site here
      | inr there =>
          exact Properties.forall_walk holds inherits parent inherited rest later site there

end

theorem Node.names_prefix (names : FieldPath) (inherited : Option Dynamic) (tree : Node) :
    ∀ site ∈ tree.walk names inherited, names <+: site.names :=
  Node.forall_walk (fun below _ => names <+: below)
    (fun above entry _ => above.trans (List.prefix_append _ [entry.1])) names inherited tree
    (List.prefix_refl names)

theorem Properties.names_prefix (parent : FieldPath) (inherited : Option Dynamic)
    (properties : Properties) :
    ∀ site ∈ properties.walk parent inherited,
      ∃ name ∈ properties.map Prod.fst, parent ++ [name] <+: site.names :=
  Properties.forall_walk
    (fun below _ => ∃ name ∈ properties.map Prod.fst, parent ++ [name] <+: below)
    (fun ⟨name, inside, above⟩ entry _ =>
      ⟨name, inside, above.trans (List.prefix_append _ [entry.1])⟩)
    parent inherited properties
    (fun entry inside => ⟨entry.1, List.mem_map_of_mem inside, List.prefix_refl _⟩)

theorem Node.ordered_of_walk {names : FieldPath} {inherited : Option Dynamic} {tree : Node}
    (ordered : tree.Ordered) : ∀ site ∈ tree.walk names inherited, site.node.Ordered :=
  Node.forall_walk (fun _ field => field.Ordered)
    (fun above => (Properties.ordered_iff.mp above).2) names inherited tree ordered

theorem Node.path_of_walk {names : FieldPath} {inherited : Option Dynamic} {tree : Node}
    (placed : tree.Placed names) :
    ∀ site ∈ tree.walk names inherited, site.node.path = site.names := by
  intro site member
  have sitePlaced : site.node.Placed site.names :=
    Node.forall_walk (fun below field => field.Placed below)
      (fun above => Properties.placed_iff.mp above.2) names inherited tree placed site member
  cases field : site.node with
  | leaf kind params path =>
      rw [field, Node.Placed] at sitePlaced
      exact sitePlaced
  | compound kind params path dynamic properties =>
      rw [field, Node.Placed] at sitePlaced
      exact sitePlaced.1

theorem name_eq_of_prefix {parent names : FieldPath} {left right : String}
    (leftAbove : parent ++ [left] <+: names) (rightAbove : parent ++ [right] <+: names) :
    left = right := by
  have same := List.prefix_of_prefix_length_le leftAbove rightAbove (by simp)
  simpa using List.IsPrefix.eq_of_length same (by simp)

mutual

theorem Node.walk_nodup (names : FieldPath) (inherited : Option Dynamic) (tree : Node)
    (ordered : tree.Ordered) : ((tree.walk names inherited).map Site.names).Nodup := by
  match tree with
  | .leaf kind params path =>
      rw [Node.walk]
      exact List.nodup_singleton names
  | .compound kind params path dynamic properties =>
      rw [Node.Ordered] at ordered
      rw [Node.walk, List.map_cons]
      split
      next => exact List.nodup_singleton names
      next =>
        refine List.nodup_cons.mpr
          ⟨?_, Properties.walk_nodup names (dynamic.or inherited) properties ordered⟩
        intro member
        obtain ⟨site, below, same⟩ := List.mem_map.mp member
        obtain ⟨name, -, above⟩ :=
          Properties.names_prefix names (dynamic.or inherited) properties site below
        have longer := above.length_le
        simp [same] at longer

theorem Properties.walk_nodup (parent : FieldPath) (inherited : Option Dynamic)
    (properties : Properties) (ordered : properties.Ordered) :
    ((properties.walk parent inherited).map Site.names).Nodup := by
  match properties with
  | [] => simp [Properties.walk]
  | (name, field) :: rest =>
      rw [Properties.Ordered] at ordered
      obtain ⟨less, fieldOrdered, restOrdered⟩ := ordered
      rw [Properties.walk, List.map_append]
      refine List.nodup_append.mpr
        ⟨Node.walk_nodup (parent ++ [name]) inherited field fieldOrdered,
          Properties.walk_nodup parent inherited rest restOrdered, ?_⟩
      intro left first right later same
      obtain ⟨site, atField, rfl⟩ := List.mem_map.mp first
      obtain ⟨other, atRest, rfl⟩ := List.mem_map.mp later
      have above := Node.names_prefix (parent ++ [name]) inherited field site atField
      obtain ⟨sibling, inside, otherAbove⟩ :=
        Properties.names_prefix parent inherited rest other atRest
      have names := name_eq_of_prefix above (same ▸ otherAbove)
      exact lt_irrefl name (by simpa [names] using less sibling inside)

end

end StoreSchema
