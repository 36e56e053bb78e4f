import StoreSchema.Proofs.Naming.Fresh
import StoreSchema.Proofs.Types.Leaves
import StoreSchema.Proofs.Types.Steps

/-! # Names of generated types

Every step of a compilation issues names that were free in the registry before it and are taken
after it, whether the step succeeds or fails. So the definitions of a whole session stand apart:
no name and no wire name is met twice, and look-up by either finds the definition that has it.
-/

namespace StoreSchema

namespace Definition

/-- Two definitions share neither of their names. -/
structure Apart (left right : Definition) : Prop where
  name : left.name ≠ right.name
  wireName : left.wireName ≠ right.wireName
  wireNameName : left.wireName ≠ right.name
  nameWireName : left.name ≠ right.wireName

end Definition

namespace Compile

/-- A call of the compiler: a field, the path that it is named for, the override of the field and
    the treatment of undeclared keys that it inherits. -/
structure Call where
  field : Node
  path : List String
  override : Option FieldPolicy := none
  inherited : Option Dynamic := none

/-- The outcomes of calls made one after the other, with the names that earlier calls took. -/
def session (config : Config) (registry : Naming.Registry) :
    List Call → List (Except Fault Compiled)
  | [] => []
  | call :: rest =>
    let step := node config call.path call.override call.inherited registry call.field
    step.1 :: session config step.2 rest

/-- The definitions that an outcome brings; a fault brings none. -/
def definitionsOf : Except Fault Compiled → List Definition
  | .ok compiled => compiled.types
  | .error _ => []

/-! ## What a step issues -/

/-- A step from one registry to another has issued the names of some definitions: they were free
    before, are taken after, and do not clash among themselves. -/
structure Issued (strategy : Naming.Strategy) (before after : Naming.Registry)
    (types : List Definition) : Prop where
  grows : before ⊆ after
  fresh : ∀ definition ∈ types, definition.name ∉ before ∧ definition.wireName ∉ before
  taken : ∀ definition ∈ types, definition.name ∈ after ∧ definition.wireName ∈ after
  apart : types.Pairwise Definition.Apart
  twin : ∀ definition ∈ types, definition.isPair →
    definition.wireName = strategy.wireName definition.name

namespace Issued

variable {strategy : Naming.Strategy} {before middle after : Naming.Registry}
variable {first second : List Definition}

theorem none (strategy : Naming.Strategy) (registry : Naming.Registry) :
    Issued strategy registry registry [] where
  grows := List.Subset.refl registry
  fresh := by simp
  taken := by simp
  apart := .nil
  twin := by simp

/-- A failure keeps the names that were taken on the way to it. -/
theorem forget (issued : Issued strategy before after first) : Issued strategy before after [] where
  grows := issued.grows
  fresh := by simp
  taken := by simp
  apart := .nil
  twin := by simp

/-- What the second step issues was free after the first, and what the first issued was not. -/
theorem append (left : Issued strategy before middle first)
    (right : Issued strategy middle after second) :
    Issued strategy before after (first ++ second) where
  grows := List.Subset.trans left.grows right.grows
  fresh := by
    intro definition member
    cases List.mem_append.mp member with
    | inl early => exact left.fresh definition early
    | inr late =>
        have free := right.fresh definition late
        exact ⟨fun taken => free.1 (left.grows taken), fun taken => free.2 (left.grows taken)⟩
  taken := by
    intro definition member
    cases List.mem_append.mp member with
    | inl early =>
        have taken := left.taken definition early
        exact ⟨right.grows taken.1, right.grows taken.2⟩
    | inr late => exact right.taken definition late
  apart := by
    refine List.pairwise_append.mpr ⟨left.apart, right.apart, fun one early other late => ?_⟩
    have taken := left.taken one early
    have free := right.fresh other late
    exact ⟨fun same => free.1 (same ▸ taken.1), fun same => free.2 (same ▸ taken.2),
      fun same => free.1 (same ▸ taken.2), fun same => free.2 (same ▸ taken.1)⟩
  twin := by
    intro definition member
    cases List.mem_append.mp member with
    | inl early => exact left.twin definition early
    | inr late => exact right.twin definition late

theorem single {path : List String} {name : String} {definition : Definition}
    (generated : before.generate strategy path = .ok (name, after))
    (named : definition.name = name)
    (wire : definition.wireName = strategy.wireName name ∨
      definition.wireName = name ∧ definition.isPair = false) :
    Issued strategy before after [definition] := by
  obtain ⟨⟨nameFree, twinFree⟩, rfl⟩ := Naming.Registry.generate_ok generated
  have takenName : name ∈ before.register strategy name :=
    Naming.Registry.mem_register.mpr (.inr (.inl rfl))
  have takenTwin : strategy.wireName name ∈ before.register strategy name :=
    Naming.Registry.mem_register.mpr (.inl rfl)
  refine ⟨fun other taken => Naming.Registry.mem_register.mpr (.inr (.inr taken)), ?_, ?_,
    List.pairwise_singleton _ _, ?_⟩
  · intro only member
    cases List.mem_singleton.mp member
    cases wire with
    | inl twin => exact ⟨named ▸ nameFree, twin ▸ twinFree⟩
    | inr plain => exact ⟨named ▸ nameFree, plain.1 ▸ nameFree⟩
  · intro only member
    cases List.mem_singleton.mp member
    cases wire with
    | inl twin => exact ⟨named ▸ takenName, twin ▸ takenTwin⟩
    | inr plain => exact ⟨named ▸ takenName, plain.1 ▸ takenName⟩
  · intro only member pair
    cases List.mem_singleton.mp member
    cases wire with
    | inl twin => rw [twin, named]
    | inr plain => simp [plain.2] at pair

end Issued

/-! ## What a compilation issues -/

/-- The definitions that the fields of a record bring. -/
def definitionsBelow : Except Fault (List Child) → List Definition
  | .ok fields => fields.flatMap (·.compiled.types)
  | .error _ => []

theorem leaf_issued {strategy : Naming.Strategy} {kind : Kind} {params : List (String × Json)}
    {place : FieldPath} {path : List String} {policy : Policy} {before after : Naming.Registry}
    {result : Except Fault (Element × List Definition)}
    (step : leaf strategy kind params place path policy before = (result, after)) :
    Issued strategy before after ((result.toOption.map Prod.snd).getD []) := by
  have outcome := leaf_step strategy kind params place path policy before
  rw [step] at outcome
  cases outcome with
  | refused | existing | unnamed => exact .none strategy before
  | generated planned named =>
      have body := (planLeaf_fits planned).2
      exact .single named rfl (.inr ⟨rfl, body.not_pair⟩)

mutual

theorem node_issued (config : Config) (path : List String) (field : Option FieldPolicy)
    (inherited : Option Dynamic) (before : Naming.Registry) (tree : Node) :
    Issued config.naming before (node config path field inherited before tree).2
      (definitionsOf (node config path field inherited before tree).1) := by
  have step := node_step config path field inherited before tree
  match tree with
  | .leaf kind params place =>
      generalize node config path field inherited before (.leaf kind params place) = result at step ⊢
      cases step with
      | leafFault step => exact leaf_issued step
      | leaf step => exact leaf_issued step
  | .compound kind params place dynamic properties =>
      have issued := fun middle => children_issued config path
        ((field.map FieldPolicy.children).getD []) (dynamic.or inherited) middle properties
      generalize node config path field inherited before
        (.compound kind params place dynamic properties) = result at step ⊢
      cases step with
      | unnamed => exact .none config.naming before
      | openMap named => exact .single named rfl (.inl rfl)
      | @childFault _ _ _ _ _ name middle after fault named closed below =>
          have first : Issued config.naming before middle
              [recordDefinition name (config.naming.wireName name) path kind []] :=
            .single named rfl (.inl rfl)
          have rest := issued middle
          rw [below] at rest
          exact (first.append rest).forget
      | @record _ _ _ _ _ name middle after fields named closed below =>
          have first : Issued config.naming before middle
              [recordDefinition name (config.naming.wireName name) path kind fields] :=
            .single named rfl (.inl rfl)
          have rest := issued middle
          rw [below] at rest
          exact first.append rest

theorem children_issued (config : Config) (path : List String) (overrides : Overrides)
    (inherited : Option Dynamic) (before : Naming.Registry) (properties : Properties) :
    Issued config.naming before
      (children config path overrides inherited before properties).2
      (definitionsBelow (children config path overrides inherited before properties).1) := by
  have step := children_step config path inherited before overrides properties
  match properties with
  | [] =>
      rw [children]
      exact .none config.naming before
  | (name, child) :: rest =>
      have firstIssued := node_issued config (path ++ [name]) (overrides.lookup name) inherited
        before child
      have restIssued := fun middle => children_issued config path overrides inherited middle rest
      generalize children config path overrides inherited before ((name, child) :: rest) =
        result at step ⊢
      cases step with
      | fault first =>
          rw [first] at firstIssued
          exact firstIssued
      | @laterFault _ _ _ compiled fault middle after first later =>
          rw [first] at firstIssued
          have laterIssued := restIssued middle
          rw [later] at laterIssued
          exact (firstIssued.append laterIssued).forget
      | @cons _ _ _ compiled others middle after first later =>
          rw [first] at firstIssued
          have laterIssued := restIssued middle
          rw [later] at laterIssued
          exact firstIssued.append laterIssued

end

/-- A session issues the names of all definitions that its successful calls bring. -/
theorem session_issued (config : Config) (before : Naming.Registry) (calls : List Call) :
    ∃ after, Issued config.naming before after
      ((session config before calls).flatMap definitionsOf) := by
  induction calls generalizing before with
  | nil => exact ⟨before, .none config.naming before⟩
  | cons call rest ih =>
      have first := node_issued config call.path call.override call.inherited before call.field
      obtain ⟨after, later⟩ :=
        ih (node config call.path call.override call.inherited before call.field).2
      exact ⟨after, first.append later⟩

end Compile

namespace Forest

theorem types_issued {config : Config} {root : String} {properties : Properties} {forest : Forest}
    (compiled : Forest.ofProperties config root properties = .ok forest) :
    ∃ after, Compile.Issued config.naming [] after forest.types := by
  have issued := Compile.node_issued config [root] (some (.mk {} config.fields)) none []
    (.compound .object [] [] none properties)
  obtain ⟨top, after, step, rfl⟩ := Compile.ofProperties_ok compiled
  rw [step] at issued
  exact ⟨after, issued⟩

end Forest

theorem find?_of_apart {types : List Definition} (apart : types.Pairwise Definition.Apart)
    {definition : Definition} (member : definition ∈ types) :
    types.find? (·.name == definition.name) = some definition ∧
      types.find? (·.wireName == definition.wireName) = some definition := by
  induction types with
  | nil => simp at member
  | cons first rest ih =>
      obtain ⟨fromFirst, restApart⟩ := List.pairwise_cons.mp apart
      cases List.mem_cons.mp member with
      | inl same =>
          subst same
          constructor <;> exact List.find?_cons_of_pos (beq_self_eq_true _)
      | inr later =>
          have different := fromFirst definition later
          have found := ih restApart later
          rw [List.find?_cons_of_neg (by simpa using different.name),
            List.find?_cons_of_neg (by simpa using different.wireName)]
          exact found

theorem wireName_ne (strategy : Naming.Strategy) (suffix : strategy.wireSuffix ≠ "")
    (name : String) : name ≠ strategy.wireName name := by
  intro same
  have lengths := congrArg String.length same
  rw [Naming.Strategy.wireName, String.length_append] at lengths
  exact suffix (String.length_eq_zero_iff.mp (by omega))

/-- No two definitions share a name, and the two names of a pair differ unless the suffix of wire
    names is empty. -/
structure Unclashing (strategy : Naming.Strategy) (types : List Definition) : Prop where
  apart : types.Pairwise Definition.Apart
  own : strategy.wireSuffix ≠ "" → ∀ definition ∈ types, definition.isPair →
    definition.name ≠ definition.wireName

theorem Compile.Issued.unclashing {strategy : Naming.Strategy} {before after : Naming.Registry}
    {types : List Definition} (issued : Compile.Issued strategy before after types) :
    Unclashing strategy types where
  apart := issued.apart
  own := by
    intro suffix definition member pair
    rw [issued.twin definition member pair]
    exact wireName_ne strategy suffix definition.name

namespace Forest

theorem find?_eq_some {config : Config} {root : String} {properties : Properties} {forest : Forest}
    (compiled : Forest.ofProperties config root properties = .ok forest) {definition : Definition}
    (member : definition ∈ forest.types) : forest.find? definition.name = some definition := by
  obtain ⟨after, issued⟩ := types_issued compiled
  exact (find?_of_apart issued.apart member).1

end Forest

/-- Names never clash: neither among the definitions that any session of calls brings, nor in a
    forest, where each definition is found by either of its names. -/
theorem names_never_clash (config : Config) :
    (∀ calls : List Compile.Call,
      Unclashing config.naming
        ((Compile.session config [] calls).flatMap Compile.definitionsOf)) ∧
    ∀ (root : String) (properties : Properties) (forest : Forest),
      Forest.ofProperties config root properties = .ok forest →
        Unclashing config.naming forest.types ∧
        ∀ definition ∈ forest.types, forest.find? definition.name = some definition ∧
          forest.findWire? definition.wireName = some definition := by
  constructor
  · intro calls
    obtain ⟨after, issued⟩ := Compile.session_issued config [] calls
    exact issued.unclashing
  · intro root properties forest compiled
    obtain ⟨after, issued⟩ := Forest.types_issued compiled
    exact ⟨issued.unclashing, fun definition member => find?_of_apart issued.apart member⟩

/-! ## A sample -/

namespace Sample

/-- An index of documents with a manager, who is a record, and a load, which is an aggregate. -/
def document : Json :=
  .obj
    [("manager", .obj [("properties", .obj
       [("age", .obj [("type", .str "integer")]), ("extra", .obj [("dynamic", .bool true)])])]),
     ("load", .obj [("type", .str "aggregate_metric_double"), ("metrics", .arr [.str "max"])])]

def properties : Properties :=
  [("load", .leaf .aggregateMetricDouble [("metrics", .arr [.str "max"])] ["load"]),
   ("manager", .compound .object [] ["manager"] none
     [("age", .leaf .integer [] ["manager", "age"]),
      ("extra", .compound .object [] ["manager", "extra"] (some .accepted) [])])]

/-- Managers are single and required, everything else is optional and many. -/
def config : Config :=
  { fields := [("manager", .mk { required := .on, single := .on } [])] }

def doc : Definition :=
  { name := "Doc", wireName := "DocRaw", path := ["doc"], kind := .object
    body := .record
      [⟨"load", "load", .aggregateMetricDouble, {}, .leaf "Load" (.obj []), .optionalList, .array⟩,
       ⟨"manager", "manager", .object, { required := true, single := true },
         .compound "Manager" "ManagerRaw", .value, .single⟩]
    dependencies := [Compile.fieldScope, Compile.recordScope] }

def load : Definition :=
  { name := "Load", wireName := "Load", path := ["doc", "load"], kind := .aggregateMetricDouble
    body := .aggregate [.max]
    dependencies := [] }

def manager : Definition :=
  { name := "Manager", wireName := "ManagerRaw", path := ["doc", "manager"], kind := .object
    body := .record
      [⟨"age", "age", .integer, {}, .scalar "i32" (.int 0), .optionalList, .array⟩,
       ⟨"extra", "extra", .object, {}, .compound "Extra" "ExtraRaw", .optionalList, .array⟩]
    dependencies := [Compile.fieldScope, Compile.recordScope] }

def extra : Definition :=
  Compile.openDefinition "Extra" "ExtraRaw" ["doc", "manager", "extra"] .object

def forest : Forest := ⟨"Doc", [doc, load, manager, extra]⟩

theorem mapped : Mapping.ofJson document = .ok ⟨none, properties⟩ := by
  with_unfolding_all rfl

theorem compiled : Forest.ofProperties config "doc" properties = .ok forest := by
  with_unfolding_all rfl

end Sample

theorem sample_names_never_clash :
    Unclashing Sample.config.naming Sample.forest.types ∧
      ∀ definition ∈ Sample.forest.types,
        Sample.forest.find? definition.name = some definition ∧
          Sample.forest.findWire? definition.wireName = some definition :=
  (names_never_clash Sample.config).2 "doc" Sample.properties Sample.forest Sample.compiled

end StoreSchema
