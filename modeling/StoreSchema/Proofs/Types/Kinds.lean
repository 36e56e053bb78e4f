import StoreSchema.Proofs.Schema.Reading
import StoreSchema.Proofs.Types.Forests

/-! # Kinds of members

In the forest of a mapping that was read, members that hold records are of a compound kind. What
leaves of other kinds make of a list of theirs never concerns records.
-/

namespace StoreSchema

/-- Members that hold records are of a compound kind. -/
def CompoundKinds (types : List Definition) : Prop :=
  ∀ definition ∈ types, ∀ member ∈ definition.members, member.element.isNested →
    member.kind.isCompound

theorem CompoundKinds.not_vector {types : List Definition} (kinds : CompoundKinds types)
    {definition : Definition} (inside : definition ∈ types) {member : Member}
    (declared : member ∈ definition.members) {type wire : String}
    (element : member.element = .compound type wire) : member.kind ≠ .denseVector := by
  intro vector
  have compound := kinds definition inside member declared (by rw [element]; rfl)
  rw [vector] at compound
  cases compound

/-! ## What kinds say of elements -/

/-- Something holds of the kind of every member and the type of its elements. -/
def ForMembers (holds : Kind → Element → Prop) (types : List Definition) : Prop :=
  ∀ definition ∈ types, ∀ member ∈ definition.members, holds member.kind member.element

namespace Compile

/-- Something holds of the kind of every field that can be read and of the elements that it is
    compiled into. -/
structure Given (holds : Kind → Element → Prop) : Prop where
  existing : ∀ {kind place params policy type zero},
    planLeaf kind place params policy = .ok (.existing type zero) → holds kind (.scalar type zero)
  generated : ∀ {kind place params policy name} {type : LeafType},
    planLeaf kind place params policy = .ok (.generated type) → holds kind (.leaf name type.zero)
  compound : ∀ {kind name wireName}, kind.isCompound → holds kind (.compound name wireName)

/-- Something holds of a compiled field and of the members of the definitions below it. -/
structure KindedField (holds : Kind → Element → Prop) (tree : Node) (compiled : Compiled) :
    Prop where
  own : holds tree.kind compiled.element
  below : ForMembers holds compiled.types

section

variable {holds : Kind → Element → Prop}

theorem leaf_kinded (given : Given holds) {strategy : Naming.Strategy} {kind : Kind}
    {params : List (String × Json)} {place : FieldPath} {path : List String} {policy : Policy}
    {before after : Naming.Registry} {element : Element} {types : List Definition}
    (step : leaf strategy kind params place path policy before = (.ok (element, types), after)) :
    holds kind element ∧ ForMembers holds types := by
  have outcome := leaf_step strategy kind params place path policy before
  rw [step] at outcome
  cases outcome with
  | existing planned => exact ⟨given.existing planned, by simp [ForMembers]⟩
  | @generated type name _ planned named =>
      refine ⟨given.generated planned, ?_⟩
      intro definition inside member declared
      cases List.mem_singleton.mp inside
      obtain ⟨-, body⟩ := planLeaf_fits planned
      have none : Definition.members ⟨name, name, path, kind, type.body, type.dependencies⟩ = [] :=
        LeafBody.no_members body
      simp [none] at declared

theorem record_kinded {name wireName : String} {path : List String} {kind : Kind}
    {fields : List Child}
    (own : ∀ field ∈ fields, holds field.kind field.compiled.element)
    (below : ForMembers holds (fields.flatMap (·.compiled.types))) :
    ForMembers holds (recordDefinition name wireName path kind fields ::
      fields.flatMap (·.compiled.types)) := by
  intro definition inside member declared
  cases List.mem_cons.mp inside with
  | inl same =>
      subst same
      obtain ⟨field, compiled, becomes⟩ := Lists.exists_left (membersOf_become fields) declared
      rw [becomes.kind, becomes.element]
      exact own field compiled
  | inr deeper => exact below definition deeper member declared

variable (config : Config)

mutual

theorem node_kinded (given : Given holds) (path : List String) (field : Option FieldPolicy)
    (inherited : Option Dynamic) (before : Naming.Registry) (tree : Node) (kinded : tree.Kinded)
    {compiled : Compiled} {after : Naming.Registry}
    (step : node config path field inherited before tree = (.ok compiled, after)) :
    KindedField holds tree compiled := by
  have outcome := node_step config path field inherited before tree
  rw [step] at outcome
  match tree with
  | .leaf kind params place =>
      cases outcome with
      | leaf step =>
          obtain ⟨own, below⟩ := leaf_kinded given step
          exact ⟨own, below⟩
  | .compound kind params place dynamic properties =>
      rw [Node.Kinded] at kinded
      cases outcome with
      | openMap named accepts =>
          refine ⟨given.compound kinded.1, ?_⟩
          intro definition inside member declared
          cases List.mem_singleton.mp inside
          simp [openDefinition, Definition.members] at declared
      | @record _ _ _ _ _ name middle _ fields named closed below =>
          obtain ⟨own, deeper⟩ := children_kinded given path _ (dynamic.or inherited) middle
            properties kinded.2 below
          exact ⟨given.compound kinded.1, record_kinded own deeper⟩

theorem children_kinded (given : Given holds) (path : List String) (overrides : Overrides)
    (inherited : Option Dynamic) (before : Naming.Registry) (properties : Properties)
    (kinded : properties.Kinded) {fields : List Child} {after : Naming.Registry}
    (step : children config path overrides inherited before properties = (.ok fields, after)) :
    (∀ field ∈ fields, holds field.kind field.compiled.element) ∧
      ForMembers holds (fields.flatMap (·.compiled.types)) := by
  have outcome := children_step config path inherited before overrides properties
  rw [step] at outcome
  match properties with
  | [] =>
      cases outcome
      simp [ForMembers]
  | (name, child) :: rest =>
      rw [Properties.Kinded] at kinded
      cases outcome with
      | @cons _ _ _ compiled others middle _ first later =>
          have head := node_kinded given (path ++ [name]) _ inherited before child kinded.1 first
          obtain ⟨own, below⟩ :=
            children_kinded given path overrides inherited middle rest kinded.2 later
          refine ⟨List.forall_mem_cons.mpr ⟨head.own, own⟩, ?_⟩
          intro definition inside
          rw [List.flatMap_cons] at inside
          cases List.mem_append.mp inside with
          | inl here => exact head.below definition here
          | inr there => exact below definition there

end

end

end Compile

/-- What kinds say of the elements that fields are compiled into, they say of the members in the
    forest of a mapping that was read. -/
theorem Forest.forMembers {holds : Kind → Element → Prop} (given : Compile.Given holds)
    {document : Json} {mapping : Mapping} {config : Config} {root : String} {forest : Forest}
    (read : Mapping.ofJson document = .ok mapping)
    (compiled : Forest.ofProperties config root mapping.properties = .ok forest) :
    ForMembers holds forest.types := by
  obtain ⟨top, after, step, rfl⟩ := Compile.ofProperties_ok compiled
  have kinded : (Node.compound .object [] [] none mapping.properties).Kinded := by
    rw [Node.Kinded]
    exact ⟨rfl, Mapping.ofJson_kinded read⟩
  exact (Compile.node_kinded config given [root] _ none [] _ kinded step).below

/-! ## Kinds of records -/

theorem Compile.given_compound :
    Compile.Given fun kind element => element.isNested → kind.isCompound where
  existing _ nested := by cases nested
  generated _ nested := by cases nested
  compound compound _ := compound

theorem Forest.compoundKinds {document : Json} {mapping : Mapping} {config : Config}
    {root : String} {forest : Forest} (read : Mapping.ofJson document = .ok mapping)
    (compiled : Forest.ofProperties config root mapping.properties = .ok forest) :
    CompoundKinds forest.types :=
  Forest.forMembers Compile.given_compound read compiled

/-! ## Kinds without a zero -/

/-- Whether the values of a kind can be of any type, so that nothing but `null` is their zero. -/
def Kind.isUntyped : Kind → Bool
  | .alias | .geoShape | .shape => true
  | _ => false

/-- The zero of a type of elements, if it has one of its own. -/
def Element.zero? : Element → Option Json
  | .scalar _ zero | .leaf _ zero => some zero
  | .compound _ _ => none

theorem zero_of_target {kind : Kind} {scalar : Scalar} (target : kind.target = .scalar scalar) :
    scalar.zero.toJson = .null ↔ kind.isUntyped := by
  cases kind <;> cases target <;> simp [Zero.toJson, Kind.isUntyped]

theorem DateFormat.toJson_epoch (format : DateFormat) :
    ∃ zero, format.toJson Moment.epoch = .ok zero ∧ zero ≠ .null := by
  have known : DateFormat.hasYear Moment.epoch.year = true := by decide +kernel
  rw [DateFormat.toJson]
  split
  next => exact ⟨_, rfl, by simp⟩
  next =>
    rw [DateFormat.toText]
    split
    next => exact ⟨_, rfl, by simp⟩
    next => exact ⟨_, by rw [if_pos known]; rfl, by simp⟩

theorem Kind.target_of_untyped {kind : Kind} (untyped : kind.isUntyped) :
    kind.target = .anyValue := by
  cases kind <;> first | rfl | cases untyped

namespace Compile

/-- The zero of what a leaf becomes. -/
def LeafPlan.zero : LeafPlan → Json
  | .existing _ zero => zero
  | .generated type => type.zero

variable {place : FieldPath} {params : List (String × Json)} {policy : Policy} {plan : LeafPlan}

theorem planDate_zero {nanos : Bool} (planned : planDate place params policy nanos = .ok plan) :
    plan.zero ≠ .null := by
  unfold planDate at planned
  obtain ⟨declared, -, planned⟩ := Outcome.bind_eq_ok.mp planned
  split at planned
  next =>
    cases planned
    simp [LeafPlan.zero]
  next =>
    dsimp only at planned
    split at planned
    next => cases planned
    next format _ =>
      cases planned
      obtain ⟨zero, written, some⟩ := format.toJson_epoch
      simpa only [LeafPlan.zero, written] using some

theorem planAggregate_zero (planned : planAggregate place params = .ok plan) :
    plan.zero ≠ .null := by
  unfold planAggregate at planned
  split at planned
  next =>
    obtain ⟨metrics, -, planned⟩ := Outcome.bind_eq_ok.mp planned
    cases planned
    simp [LeafPlan.zero]
  next => cases planned

theorem planLeaf_zero {kind : Kind} (planned : planLeaf kind place params policy = .ok plan) :
    plan.zero = .null ↔ kind.isUntyped := by
  have typed : kind.target ≠ .anyValue → ¬ kind.isUntyped := mt Kind.target_of_untyped
  unfold planLeaf at planned
  split at planned
  next target =>
    cases planned
    exact zero_of_target target
  next target =>
    cases planned
    exact iff_of_false (by simp [LeafPlan.zero]) (typed (by rw [target]; nofun))
  next target => exact iff_of_false (planDate_zero planned) (typed (by rw [target]; nofun))
  next target => exact iff_of_false (planAggregate_zero planned) (typed (by rw [target]; nofun))
  next => cases planned

theorem given_zero :
    Given fun kind element =>
      ∀ zero, element.zero? = some zero → (zero = .null ↔ kind.isUntyped) where
  existing := by
    intro kind place params policy type zero planned other found
    cases found
    exact planLeaf_zero planned
  generated := by
    intro kind place params policy name type planned other found
    cases found
    exact planLeaf_zero planned
  compound := by
    intro kind name wireName compound zero found
    cases found

end Compile

theorem Forest.zero_null_iff {document : Json} {mapping : Mapping} {config : Config}
    {root : String} {forest : Forest} (read : Mapping.ofJson document = .ok mapping)
    (compiled : Forest.ofProperties config root mapping.properties = .ok forest)
    {definition : Definition} (inside : definition ∈ forest.types) {member : Member}
    (declared : member ∈ definition.members) {zero : Json}
    (found : member.element.zero? = some zero) : zero = .null ↔ member.kind.isUntyped :=
  Forest.forMembers Compile.given_zero read compiled definition inside member declared zero found

end StoreSchema
