import StoreSchema.Proofs.Keyed
import StoreSchema.Proofs.Types.Leaves
import StoreSchema.Proofs.Types.Steps

/-! # Shapes of members

Three preferences shape members: whether they are required, whether they are single, and whether
truth values are written as strings. They shape members and do nothing else. Compiling without them
takes the same names, fails with the same fault, and gives the same forest without the shapes.
-/

namespace StoreSchema

/-! ## Preferences without shapes -/

def Layer.shapeless (layer : Layer) : Layer :=
  { layer with required := .unset, single := .unset, preferStringBoolean := .unset }

mutual

def FieldPolicy.shapeless : FieldPolicy → FieldPolicy
  | .mk layer children => .mk layer.shapeless (Overrides.shapeless children)

def Overrides.shapeless : List (String × FieldPolicy) → List (String × FieldPolicy)
  | [] => []
  | (name, field) :: rest => (name, field.shapeless) :: Overrides.shapeless rest

end

def GlobalPolicy.shapeless (policy : GlobalPolicy) : GlobalPolicy :=
  { layer := policy.layer.shapeless
    byKind := policy.byKind.map fun entry => (entry.1, entry.2.shapeless) }

/-- A configuration in which no layer states how members are shaped. -/
def Config.shapeless (config : Config) : Config :=
  { config with global := config.global.shapeless, fields := Overrides.shapeless config.fields }

def Policy.shapeless (policy : Policy) : Policy :=
  { policy with required := false, single := false, preferStringBoolean := false }

theorem Overrides.lookup_shapeless (overrides : Overrides) (name : String) :
    (Overrides.shapeless overrides).lookup name =
      (overrides.lookup name).map FieldPolicy.shapeless := by
  induction overrides with
  | nil => rfl
  | cons entry rest ih =>
      obtain ⟨other, field⟩ := entry
      rw [Overrides.shapeless, List.lookup_cons, List.lookup_cons, ih]
      cases name == other <;> rfl

theorem FieldPolicy.children_shapeless (field : Option FieldPolicy) :
    ((field.map FieldPolicy.shapeless).map FieldPolicy.children).getD [] =
      Overrides.shapeless ((field.map FieldPolicy.children).getD []) := by
  cases field with
  | none => rfl
  | some field =>
      cases field
      rfl

theorem Policy.overlay_shapeless (general : Layer) (kind field : Option Layer) :
    Policy.overlay general.shapeless (kind.map Layer.shapeless) (field.map Layer.shapeless) =
      (Policy.overlay general kind field).shapeless := by
  cases kind <;> cases field <;> rfl

theorem GlobalPolicy.resolve_shapeless (policy : GlobalPolicy) (kind : Kind)
    (field : Option FieldPolicy) :
    policy.shapeless.resolve kind (field.map FieldPolicy.shapeless) =
      (policy.resolve kind field).shapeless := by
  have layers : (field.map FieldPolicy.shapeless).map FieldPolicy.layer =
      (field.map FieldPolicy.layer).map Layer.shapeless := by
    cases field with
    | none => rfl
    | some field =>
        cases field
        rfl
  have byKind := Keyed.lookup_map_value Layer.shapeless policy.byKind kind
  simp only [GlobalPolicy.resolve, GlobalPolicy.shapeless, layers, byKind,
    Policy.overlay_shapeless]

/-! ## Types without shapes -/

/-- An existing type for a kind, where truth values are no longer told from those that are written
    as strings. -/
def Kind.shapelessType (kind : Kind) (type : String) : String :=
  if kind = .boolean ∧ type = "estype::BooleanStr" then "estype::Boolean" else type

def Element.shapeless (kind : Kind) : Element → Element
  | .scalar type zero => .scalar (kind.shapelessType type) zero
  | other => other

def Member.shapeless (member : Member) : Member :=
  { member with
    policy := member.policy.shapeless
    element := member.element.shapeless member.kind
    form := .optionalList
    cardinality := .array }

def Body.shapeless : Body → Body
  | .record members => .record (members.map Member.shapeless)
  | other => other

def Definition.shapeless (definition : Definition) : Definition :=
  { definition with body := definition.body.shapeless }

/-- A forest that tells neither how members are shaped nor how truth values are written. -/
def Forest.shapeless (forest : Forest) : Forest :=
  { forest with types := forest.types.map Definition.shapeless }

namespace Compile

theorem LeafBody.shapeless {kind : Kind} {body : Body} (leaf : LeafBody kind body) :
    body.shapeless = body := by
  cases leaf <;> rfl

def LeafPlan.shapeless (kind : Kind) : LeafPlan → LeafPlan
  | .existing type zero => .existing (kind.shapelessType type) zero
  | other => other

def Compiled.shapeless (kind : Kind) (compiled : Compiled) : Compiled :=
  { policy := compiled.policy.shapeless
    element := compiled.element.shapeless kind
    types := compiled.types.map Definition.shapeless }

def Child.shapeless (child : Child) : Child :=
  { child with compiled := child.compiled.shapeless child.kind }

/-- Changes what a step gives; what is taken after it stays the same. -/
def Step.map {α β : Type} (f : α → β) (step : Step α) : Step β :=
  (step.1.map f, step.2)

/-! ## Leaves -/

theorem LeafPlan.shapeless_of_ne {kind : Kind} (other : kind ≠ .boolean) :
    LeafPlan.shapeless kind = id := by
  funext plan
  cases plan with
  | existing type zero => simp [LeafPlan.shapeless, Kind.shapelessType, other]
  | generated type => rfl

theorem planLeaf_shapeless (kind : Kind) (path : FieldPath) (params : List (String × Json))
    (policy : Policy) :
    planLeaf kind path params policy.shapeless =
      (planLeaf kind path params policy).map (LeafPlan.shapeless kind) := by
  by_cases truth : kind = .boolean
  · subst truth
    simp only [planLeaf, Kind.target, Except.map, LeafPlan.shapeless]
    cases policy.preferStringBoolean <;> rfl
  · rw [LeafPlan.shapeless_of_ne truth, Except.map_id]
    cases kind <;> first | rfl | contradiction

theorem leaf_shapeless (strategy : Naming.Strategy) (kind : Kind) (params : List (String × Json))
    (place : FieldPath) (path : List String) (policy : Policy) (before : Naming.Registry) :
    leaf strategy kind params place path policy.shapeless before =
      (leaf strategy kind params place path policy before).map fun result =>
        (result.1.shapeless kind, result.2.map Definition.shapeless) := by
  rw [leaf, leaf, planLeaf_shapeless]
  cases planned : planLeaf kind place params policy with
  | error cause => rfl
  | ok plan =>
      cases plan with
      | existing type zero => rfl
      | generated type =>
          have body := (planLeaf_fits planned).2.shapeless
          simp only [Except.map, LeafPlan.shapeless]
          obtain ⟨taken, after⟩ := takeName strategy path before
          cases taken with
          | error fault => rfl
          | ok name => simp [Step.map, Except.map, Definition.shapeless, Element.shapeless, body]

/-! ## Records -/

theorem Child.shapeless_scopes (child : Child) : childScopes child.shapeless = childScopes child := by
  obtain ⟨name, kind, policy, element, types⟩ := child
  cases element with
  | scalar type zero =>
      by_cases truth : kind = .boolean ∧ type = "estype::BooleanStr"
      · obtain ⟨rfl, rfl⟩ := truth
        with_unfolding_all rfl
      · have same : kind.shapelessType type = type := if_neg truth
        simp only [Child.shapeless, Compiled.shapeless, Element.shapeless, same]
        rfl
  | leaf name zero => rfl
  | compound plain wire => rfl

theorem membersOf_shapeless (fields : List Child) :
    membersOf (fields.map Child.shapeless) = (membersOf fields).map Member.shapeless := by
  have names : (fields.map Child.shapeless).map Child.name = fields.map Child.name := by
    rw [List.map_map]
    rfl
  rw [membersOf, membersOf, names, List.zip_map_left, List.map_map, List.map_map]
  rfl

theorem recordDefinition_shapeless (name wireName : String) (path : List String) (kind : Kind)
    (fields : List Child) :
    recordDefinition name wireName path kind (fields.map Child.shapeless) =
      (recordDefinition name wireName path kind fields).shapeless := by
  have scopes : (fields.map Child.shapeless).flatMap childScopes = fields.flatMap childScopes := by
    rw [List.flatMap_map]
    exact congrArg (fields.flatMap ·) (funext Child.shapeless_scopes)
  rw [recordDefinition, membersOf_shapeless, scopes]
  rfl

theorem types_shapeless (fields : List Child) :
    (fields.map Child.shapeless).flatMap (·.compiled.types) =
      (fields.flatMap (·.compiled.types)).map Definition.shapeless := by
  rw [List.flatMap_map, List.map_flatMap]
  rfl

/-! ## Compilations -/

mutual

/-- Compiling a field without preferences about shapes gives what it gives with them, but for the
    shapes. -/
theorem node_shapeless (config : Config) (path : List String) (field : Option FieldPolicy)
    (inherited : Option Dynamic) (before : Naming.Registry) (tree : Node) :
    node config.shapeless path (field.map FieldPolicy.shapeless) inherited before tree =
      (node config path field inherited before tree).map (Compiled.shapeless tree.kind) := by
  match tree with
  | .leaf kind params place =>
      have preferences := config.global.resolve_shapeless kind field
      simp only [node, Config.shapeless, preferences, leaf_shapeless]
      obtain ⟨result, after⟩ :=
        leaf config.naming kind params place path (config.global.resolve kind field) before
      cases result <;> rfl
  | .compound kind params place dynamic properties =>
      have below := fun middle => children_shapeless config path
        ((field.map FieldPolicy.children).getD []) (dynamic.or inherited) middle properties
      have naming : config.shapeless.naming = config.naming := rfl
      have preferences : config.shapeless.global.resolve kind (field.map FieldPolicy.shapeless) =
        (config.global.resolve kind field).shapeless := config.global.resolve_shapeless kind field
      simp only [node, FieldPolicy.children_shapeless, below, naming, preferences]
      obtain ⟨taken, middle⟩ := takeName config.naming path before
      cases taken with
      | error fault => rfl
      | ok name =>
          -- whether the field is open is a matter of the mapping, not of preferences
          dsimp only
          split
          next => rfl
          next =>
            obtain ⟨fields, after⟩ := children config path
              ((field.map FieldPolicy.children).getD []) (dynamic.or inherited) middle properties
            cases fields with
            | error fault => rfl
            | ok fields =>
                simp only [Step.map, Except.map, recordDefinition_shapeless, types_shapeless]
                rfl

theorem children_shapeless (config : Config) (path : List String) (overrides : Overrides)
    (inherited : Option Dynamic) (before : Naming.Registry) (properties : Properties) :
    children config.shapeless path (Overrides.shapeless overrides) inherited before properties =
      (children config path overrides inherited before properties).map
        (List.map Child.shapeless) := by
  match properties with
  | [] => rw [children, children]; rfl
  | (name, child) :: rest =>
      have first := node_shapeless config (path ++ [name]) (overrides.lookup name) inherited before
        child
      have later := fun middle => children_shapeless config path overrides inherited middle rest
      simp only [children, Overrides.lookup_shapeless, first, later]
      obtain ⟨compiled, middle⟩ :=
        node config (path ++ [name]) (overrides.lookup name) inherited before child
      cases compiled with
      | error fault => rfl
      | ok compiled =>
          simp only [Step.map, Except.map]
          obtain ⟨others, after⟩ := children config path overrides inherited middle rest
          cases others <;> rfl

end

end Compile

/-! ## Forests -/

theorem Forest.ofProperties_shapeless (config : Config) (root : String) (properties : Properties) :
    Forest.ofProperties config.shapeless root properties =
      (Forest.ofProperties config root properties).map Forest.shapeless := by
  have compiled := Compile.node_shapeless config [root] (some (.mk {} config.fields)) none []
    (.compound .object [] [] none properties)
  have start : (some (FieldPolicy.mk {} config.fields)).map FieldPolicy.shapeless =
      some (.mk {} config.shapeless.fields) := rfl
  rw [start] at compiled
  rw [Compile.ofProperties_eq, Compile.ofProperties_eq, compiled]
  obtain ⟨result, after⟩ := Compile.node config [root] (some (.mk {} config.fields)) none []
    (.compound .object [] [] none properties)
  cases result with
  | error fault => rfl
  | ok compiled =>
      obtain ⟨policy, element, types⟩ := compiled
      cases element <;> rfl

/-- Preferences about shapes do not interfere with anything else: configurations that differ in
    them only fail with the same fault, or give forests that differ in the shapes only. -/
theorem shapes_do_not_interfere {left right : Config} (same : left.shapeless = right.shapeless)
    (root : Option String) (mapping : Mapping) :
    (∃ fault, Forest.ofMapping left root mapping = .error fault ∧
      Forest.ofMapping right root mapping = .error fault) ∨
    ∃ one other, Forest.ofMapping left root mapping = .ok one ∧
      Forest.ofMapping right root mapping = .ok other ∧ one.shapeless = other.shapeless := by
  have images : (Forest.ofMapping left root mapping).map Forest.shapeless =
      (Forest.ofMapping right root mapping).map Forest.shapeless := by
    rw [Forest.ofMapping, Forest.ofMapping, ← Forest.ofProperties_shapeless,
      ← Forest.ofProperties_shapeless, same]
  cases compiled : Forest.ofMapping left root mapping with
  | error fault => exact .inl ⟨fault, rfl, (Outcome.error_iff_of_map_eq images).mp compiled⟩
  | ok one =>
      obtain ⟨other, done, agree⟩ := Outcome.ok_of_map_eq images compiled
      exact .inr ⟨one, other, rfl, done, agree⟩

namespace Sample

/-- A field that tells whether managers are retired. -/
def retired : Mapping :=
  ⟨some "people",
    [("manager", .compound .object [] ["manager"] none
       [("retired", .leaf .boolean [] ["manager", "retired"])])]⟩

/-- Truth values are written as strings here, and managers are single and required. -/
def asStrings : Config :=
  { global := { layer := { preferStringBoolean := .on }, byKind := [(.object, { single := .on })] }
    fields := [("manager", .mk { required := .on } [])] }

/-- The layers stand at the same places here, but say nothing of all this. -/
def asTruth : Config :=
  { global := { byKind := [(.object, {})] }, fields := [("manager", .mk {} [])] }

theorem same_but_for_shapes : asStrings.shapeless = asTruth.shapeless := by
  with_unfolding_all rfl

end Sample

theorem sample_shapes_do_not_interfere :
    (∃ fault, Forest.ofMapping Sample.asStrings none Sample.retired = .error fault ∧
      Forest.ofMapping Sample.asTruth none Sample.retired = .error fault) ∨
    ∃ one other, Forest.ofMapping Sample.asStrings none Sample.retired = .ok one ∧
      Forest.ofMapping Sample.asTruth none Sample.retired = .ok other ∧
      one.shapeless = other.shapeless :=
  shapes_do_not_interfere Sample.same_but_for_shapes none Sample.retired

end StoreSchema
