import StoreSchema.Proofs.Schema.KeyOrder
import StoreSchema.Proofs.Types.Steps

/-! # Compiling a mapping whatever the order of its keys

Siblings are compiled in ascending order, and of the parameters of a field a compilation only looks
keys up. So it gives the same for a mapping and for the mapping with sorted keys: the same forest,
or a fault at the same field for the same reason. A value that is quoted in the fault keeps the
order in which its keys stood.
-/

namespace StoreSchema

/-! ## Faults without what they quote -/

def Schema.Malformation.unquoted : Malformation → Malformation
  | .kindNotString _ => .kindNotString .null
  | .unsupportedDynamic _ => .unsupportedDynamic .null
  | .formatNotString _ => .formatNotString .null
  | other => other

def Schema.Error.unquoted : Schema.Error → Schema.Error
  | .malformed path reason => .malformed path reason.unquoted
  | .unknownMetric _ path => .unknownMetric "" path
  | other => other

namespace Compile

def Cause.unquoted : Cause → Cause
  | .schema fault => .schema fault.unquoted
  | other => other

/-- A fault without the values of the mapping that its message shows. -/
def Fault.unquoted : Fault → Fault
  | .bare cause => .bare cause.unquoted
  | .located path fault => .located path fault.unquoted

theorem Fault.unquoted_locate (path : FieldPath) (fault : Fault) :
    (fault.locate path).unquoted = fault.unquoted.locate path := by
  cases fault <;> rfl

@[simp] theorem Fault.path?_unquoted (fault : Fault) : fault.unquoted.path? = fault.path? := by
  cases fault <;> rfl

@[simp] theorem Fault.cause_unquoted (fault : Fault) :
    fault.unquoted.cause = fault.cause.unquoted := by
  induction fault with
  | bare cause => rfl
  | located path fault ih => exact ih

/-! ## Plans of leaves -/

section

variable (path : FieldPath)

theorem declaredFormat_sortMembers (params : List (String × Json)) :
    (declaredFormat path (Json.sortMembers params)).mapError Cause.unquoted =
      (declaredFormat path params).mapError Cause.unquoted := by
  unfold declaredFormat
  rw [Json.lookup_sortMembers]
  cases params.lookup "format" with
  | none => rfl
  | some value => cases value <;> rfl

theorem metricOf_sortKeys (value : Json) :
    (metricOf path value.sortKeys).mapError Cause.unquoted =
      (metricOf path value).mapError Cause.unquoted := by
  cases value <;> rfl

theorem metrics_sortItems (names : List Json) :
    ((Json.sortItems names).mapM (metricOf path)).mapError Cause.unquoted =
      (names.mapM (metricOf path)).mapError Cause.unquoted := by
  induction names with
  | nil => rfl
  | cons name rest ih =>
      simp only [Json.sortItems, List.mapM_cons, Outcome.mapError_bind, metricOf_sortKeys, ih]

theorem planLeaf_sortMembers (kind : Kind) (params : List (String × Json)) (policy : Policy) :
    (planLeaf kind path (Json.sortMembers params) policy).mapError Cause.unquoted =
      (planLeaf kind path params policy).mapError Cause.unquoted := by
  unfold planLeaf
  split
  next => rfl
  next => rfl
  next nanos =>
    simp only [planDate, Outcome.mapError_bind, declaredFormat_sortMembers]
  next =>
    unfold planAggregate
    rw [Json.lookup_sortMembers]
    cases params.lookup "metrics" with
    | none => rfl
    | some value =>
        cases value with
        | arr names =>
            simp only [Option.map_some, Json.sortKeys, Outcome.mapError_bind, metrics_sortItems]
        | _ => rfl
  next => rfl

end

/-! ## Compilations -/

/-- Two steps that leave the same names taken and are the same but for what their faults quote. -/
inductive Step.Alike {α : Type} : Step α → Step α → Prop where
  | ok (value : α) (after : Naming.Registry) : Step.Alike (.ok value, after) (.ok value, after)
  | error {one other : Fault} (same : one.unquoted = other.unquoted) (after : Naming.Registry) :
      Step.Alike (.error one, after) (.error other, after)

@[simp] theorem kind_sortKeys (tree : Node) : tree.sortKeys.kind = tree.kind := by
  cases tree <;> rfl

theorem leaf_alike (strategy : Naming.Strategy) (kind : Kind) (params : List (String × Json))
    (place : FieldPath) (path : List String) (policy : Policy) (before : Naming.Registry) :
    Step.Alike (leaf strategy kind (Json.sortMembers params) place path policy before)
      (leaf strategy kind params place path policy before) := by
  have plans := Outcome.alike_of_mapError_eq (planLeaf_sortMembers place kind params policy)
  unfold leaf
  generalize planLeaf kind place (Json.sortMembers params) policy = sorted at plans
  generalize planLeaf kind place params policy = plan at plans
  cases plans with
  | @error one other same =>
      have located : (Fault.bare one).unquoted = (Fault.bare other).unquoted :=
        congrArg Fault.bare same
      exact .error located before
  | ok plan =>
      cases plan with
      | existing type zero => exact .ok _ before
      | generated type =>
          dsimp only
          obtain ⟨taken, after⟩ := takeName strategy path before
          cases taken with
          | error fault => exact .error rfl after
          | ok name => exact .ok _ after

mutual

theorem node_alike (config : Config) (path : List String) (field : Option FieldPolicy)
    (inherited : Option Dynamic) (before : Naming.Registry) (tree : Node) :
    Step.Alike (node config path field inherited before tree.sortKeys)
      (node config path field inherited before tree) := by
  match tree with
  | .leaf kind params place =>
      have leaves := leaf_alike config.naming kind params place path
        (config.global.resolve kind field) before
      simp only [Node.sortKeys, node]
      generalize leaf config.naming kind (Json.sortMembers params) place path
        (config.global.resolve kind field) before = sorted at leaves
      generalize leaf config.naming kind params place path
        (config.global.resolve kind field) before = unsorted at leaves
      cases leaves with
      | ok value after => exact .ok _ after
      | error same after =>
          exact .error (by rw [Fault.unquoted_locate, Fault.unquoted_locate, same]) after
  | .compound kind params place dynamic properties =>
      simp only [Node.sortKeys, node]
      obtain ⟨taken, middle⟩ := takeName config.naming path before
      cases taken with
      | error fault => exact .error rfl middle
      | ok name =>
          dsimp only
          split
          next => exact .ok _ middle
          next =>
            have below := children_alike config path ((field.map FieldPolicy.children).getD [])
              (dynamic.or inherited) middle properties
            generalize children config path ((field.map FieldPolicy.children).getD [])
              (dynamic.or inherited) middle (Properties.sortKeys properties) = sorted at below
            generalize children config path ((field.map FieldPolicy.children).getD [])
              (dynamic.or inherited) middle properties = unsorted at below
            cases below with
            | ok fields after => exact .ok _ after
            | error same after => exact .error same after

theorem children_alike (config : Config) (path : List String) (overrides : Overrides)
    (inherited : Option Dynamic) (before : Naming.Registry) (properties : Properties) :
    Step.Alike (children config path overrides inherited before (Properties.sortKeys properties))
      (children config path overrides inherited before properties) := by
  match properties with
  | [] =>
      rw [Properties.sortKeys, children]
      exact .ok [] before
  | (name, child) :: rest =>
      have first := node_alike config (path ++ [name]) (overrides.lookup name) inherited before
        child
      simp only [Properties.sortKeys, children, kind_sortKeys]
      generalize node config (path ++ [name]) (overrides.lookup name) inherited before
        child.sortKeys = sorted at first
      generalize node config (path ++ [name]) (overrides.lookup name) inherited before child =
        unsorted at first
      cases first with
      | error same after => exact .error same after
      | ok compiled middle =>
          have later := children_alike config path overrides inherited middle rest
          dsimp only
          generalize children config path overrides inherited middle
            (Properties.sortKeys rest) = sorted at later
          generalize children config path overrides inherited middle rest = unsorted at later
          cases later with
          | error same after => exact .error same after
          | ok others after => exact .ok _ after

end

end Compile

/-! ## Forests -/

namespace Forest

theorem ofProperties_sortKeys (config : Config) (root : String) (properties : Properties) :
    (Forest.ofProperties config root (Properties.sortKeys properties)).mapError
        Compile.Fault.unquoted =
      (Forest.ofProperties config root properties).mapError Compile.Fault.unquoted := by
  have alike := Compile.node_alike config [root] (some (.mk {} config.fields)) none []
    properties.top
  rw [Compile.ofProperties_eq, Compile.ofProperties_eq]
  change Compile.Step.Alike (Compile.node config [root] (some (.mk {} config.fields)) none []
    (.compound .object [] [] none (Properties.sortKeys properties))) _ at alike
  generalize Compile.node config [root] (some (.mk {} config.fields)) none []
    (.compound .object [] [] none (Properties.sortKeys properties)) = sorted at alike ⊢
  generalize unsorted_eq : Compile.node config [root] (some (.mk {} config.fields)) none []
    properties.top = unsorted at alike
  rw [Properties.top] at unsorted_eq
  rw [unsorted_eq]
  cases alike with
  | ok compiled after => rfl
  | error same after => exact congrArg Except.error same

/-- What compiling two mappings comes to: the same forest, or a fault at the same place and for the
    same reason, but for the values that it quotes. -/
inductive Alike : Except Compile.Fault Forest → Except Compile.Fault Forest → Prop where
  | forest (forest : Forest) : Alike (.ok forest) (.ok forest)
  | fault {one other : Compile.Fault} (place : one.path? = other.path?)
      (reason : one.cause.unquoted = other.cause.unquoted) : Alike (.error one) (.error other)

theorem ofMapping_alike {left right : Mapping} (same : left.Same right) (config : Config)
    (root : Option String) :
    Alike (ofMapping config root left) (ofMapping config root right) := by
  obtain ⟨index, fields⟩ := Mapping.mk.inj same
  have outcomes : (ofMapping config root left).mapError Compile.Fault.unquoted =
      (ofMapping config root right).mapError Compile.Fault.unquoted := by
    rw [ofMapping, ofMapping, ← ofProperties_sortKeys, ← ofProperties_sortKeys _ _ right.properties,
      index, fields]
  have alike := Outcome.alike_of_mapError_eq outcomes
  generalize ofMapping config root left = one at alike
  generalize ofMapping config root right = other at alike
  cases alike with
  | ok forest => exact .forest forest
  | error unquoted =>
      refine .fault ?_ ?_
      · simpa using congrArg Compile.Fault.path? unquoted
      · simpa using congrArg Compile.Fault.cause unquoted

end Forest

/-- What reading two documents comes to: both are refused, or both are read, the mappings are the
    same, and so is what they compile into. -/
inductive Mapping.ReadAlike : Except Schema.Error Mapping → Except Schema.Error Mapping → Prop where
  | refused (one other : Schema.Error) : Mapping.ReadAlike (.error one) (.error other)
  | read {one other : Mapping} (same : one.Same other)
      (compiled : ∀ config root,
        Forest.Alike (Forest.ofMapping config root one) (Forest.ofMapping config root other)) :
      Mapping.ReadAlike (.ok one) (.ok other)

/-- The order of keys in a mapping document does not matter, at any depth. -/
theorem key_order_does_not_matter {left right : Json} (leftOnce : left.KeysOnce)
    (rightOnce : right.KeysOnce) (same : left.Same right) :
    Mapping.ReadAlike (Mapping.ofJson left) (Mapping.ofJson right) := by
  have mappings := Mapping.ofJson_same leftOnce rightOnce same
  generalize Mapping.ofJson left = one at mappings
  generalize Mapping.ofJson right = other at mappings
  cases one with
  | error fault =>
      cases other with
      | error other => exact .refused fault other
      | ok other => cases mappings
  | ok one =>
      cases other with
      | error other => cases mappings
      | ok other =>
          have equal : one.Same other := Option.some.inj mappings
          exact .read equal (Forest.ofMapping_alike equal)

namespace Sample

/-- A mapping of a day and a load, with the format of the day before its kind. -/
def formatFirst : Json :=
  .obj
    [("mappings", .obj
      [("properties", .obj
        [("since", .obj [("format", .str "yyyy-MM-dd"), ("type", .str "date")]),
         ("load", .obj
           [("type", .str "aggregate_metric_double"), ("metrics", .arr [.str "max"])])]),
       ("dynamic", .str "strict")])]

/-- The same mapping with every object turned around. -/
def kindFirst : Json :=
  .obj
    [("mappings", .obj
      [("dynamic", .str "strict"),
       ("properties", .obj
        [("load", .obj
           [("metrics", .arr [.str "max"]), ("type", .str "aggregate_metric_double")]),
         ("since", .obj [("type", .str "date"), ("format", .str "yyyy-MM-dd")])])])]

theorem formatFirst_once : formatFirst.KeysOnce := by
  simp [formatFirst, Json.KeysOnce, Json.MembersOnce, Json.ItemsOnce]

theorem kindFirst_once : kindFirst.KeysOnce := by
  simp [kindFirst, Json.KeysOnce, Json.MembersOnce, Json.ItemsOnce]

theorem formatFirst_same : formatFirst.Same kindFirst := by
  rfl

end Sample

theorem sample_key_order_does_not_matter :
    Sample.formatFirst ≠ Sample.kindFirst ∧
      (Mapping.ofJson Sample.formatFirst).isOk ∧
        Mapping.ReadAlike (Mapping.ofJson Sample.formatFirst) (Mapping.ofJson Sample.kindFirst) :=
  ⟨by simp [Sample.formatFirst, Sample.kindFirst], rfl,
    key_order_does_not_matter Sample.formatFirst_once Sample.kindFirst_once
      Sample.formatFirst_same⟩

end StoreSchema
