import StoreSchema.Types.Compile

/-! # Steps of a compilation

What compiling one field can come to, with the names that are taken then. Proofs about compilations
go through these cases.
-/

namespace StoreSchema.Compile

theorem takeName_ok {strategy : Naming.Strategy} {path : List String}
    {before after : Naming.Registry} {name : String}
    (taken : takeName strategy path before = (.ok name, after)) :
    before.generate strategy path = .ok (name, after) := by
  unfold takeName at taken
  split at taken
  next generated =>
    cases taken
    exact generated
  next => cases taken

theorem takeName_error {strategy : Naming.Strategy} {path : List String}
    {before after : Naming.Registry} {fault : Fault}
    (refused : takeName strategy path before = (.error fault, after)) :
    ∃ cause, before.generate strategy path = .error cause ∧ fault = .bare (.naming cause) ∧
      after = before := by
  unfold takeName at refused
  split at refused
  next => cases refused
  next cause generated =>
    cases refused
    exact ⟨cause, generated, rfl, rfl⟩

/-! ## Leaves -/

section

variable (strategy : Naming.Strategy) (kind : Kind) (params : List (String × Json))
  (place : FieldPath) (path : List String) (policy : Policy) (before : Naming.Registry)

/-- What compiling a leaf can come to. -/
inductive LeafStep : Step (Element × List Definition) → Prop where
  | refused {cause : Cause} (planned : planLeaf kind place params policy = .error cause) :
      LeafStep (.error (.bare cause), before)
  | existing {type : String} {zero : Json}
      (planned : planLeaf kind place params policy = .ok (.existing type zero)) :
      LeafStep (.ok (.scalar type zero, []), before)
  | unnamed {type : LeafType} {cause : Naming.Error}
      (planned : planLeaf kind place params policy = .ok (.generated type))
      (refused : before.generate strategy path = .error cause) :
      LeafStep (.error (.bare (.naming cause)), before)
  | generated {type : LeafType} {name : String} {after : Naming.Registry}
      (planned : planLeaf kind place params policy = .ok (.generated type))
      (named : before.generate strategy path = .ok (name, after)) :
      LeafStep
        (.ok (.leaf name type.zero, [⟨name, name, path, kind, type.body, type.dependencies⟩]), after)

theorem leaf_step :
    LeafStep strategy kind params place path policy before
      (leaf strategy kind params place path policy before) := by
  unfold leaf
  split
  next cause planned => exact .refused planned
  next type zero planned => exact .existing planned
  next type planned =>
    split
    next fault after taken =>
      obtain ⟨cause, refused, rfl, rfl⟩ := takeName_error taken
      exact .unnamed planned refused
    next name after taken => exact .generated planned (takeName_ok taken)

end

/-! ## Fields -/

section

variable (config : Config) (path : List String) (field : Option FieldPolicy)
  (inherited : Option Dynamic) (before : Naming.Registry)

/-- What compiling a field can come to. -/
inductive NodeStep : Node → Step Compiled → Prop where
  | leafFault {kind : Kind} {params : List (String × Json)} {place : FieldPath} {fault : Fault}
      {after : Naming.Registry}
      (step : leaf config.naming kind params place path (config.global.resolve kind field) before =
        (.error fault, after)) :
      NodeStep (.leaf kind params place) (.error (fault.locate place), after)
  | leaf {kind : Kind} {params : List (String × Json)} {place : FieldPath} {element : Element}
      {types : List Definition} {after : Naming.Registry}
      (step : leaf config.naming kind params place path (config.global.resolve kind field) before =
        (.ok (element, types), after)) :
      NodeStep (.leaf kind params place)
        (.ok ⟨config.global.resolve kind field, element, types⟩, after)
  | unnamed {kind : Kind} {params : List (String × Json)} {place : FieldPath}
      {dynamic : Option Dynamic} {properties : Properties} {cause : Naming.Error}
      (refused : before.generate config.naming path = .error cause) :
      NodeStep (.compound kind params place dynamic properties)
        (.error (.located (path.drop 1) (.bare (.naming cause))), before)
  | openMap {kind : Kind} {params : List (String × Json)} {place : FieldPath}
      {dynamic : Option Dynamic} {properties : Properties} {name : String}
      {after : Naming.Registry}
      (named : before.generate config.naming path = .ok (name, after))
      (accepts : dynamic.or inherited = some .accepted) :
      NodeStep (.compound kind params place dynamic properties)
        (.ok ⟨config.global.resolve kind field, .compound name (config.naming.wireName name),
          [openDefinition name (config.naming.wireName name) path kind]⟩, after)
  | childFault {kind : Kind} {params : List (String × Json)} {place : FieldPath}
      {dynamic : Option Dynamic} {properties : Properties} {name : String}
      {middle after : Naming.Registry} {fault : Fault}
      (named : before.generate config.naming path = .ok (name, middle))
      (closed : dynamic.or inherited ≠ some .accepted)
      (below : children config path ((field.map FieldPolicy.children).getD [])
        (dynamic.or inherited) middle properties = (.error fault, after)) :
      NodeStep (.compound kind params place dynamic properties) (.error fault, after)
  | record {kind : Kind} {params : List (String × Json)} {place : FieldPath}
      {dynamic : Option Dynamic} {properties : Properties} {name : String}
      {middle after : Naming.Registry} {fields : List Child}
      (named : before.generate config.naming path = .ok (name, middle))
      (closed : dynamic.or inherited ≠ some .accepted)
      (below : children config path ((field.map FieldPolicy.children).getD [])
        (dynamic.or inherited) middle properties = (.ok fields, after)) :
      NodeStep (.compound kind params place dynamic properties)
        (.ok ⟨config.global.resolve kind field, .compound name (config.naming.wireName name),
          recordDefinition name (config.naming.wireName name) path kind fields ::
            fields.flatMap (·.compiled.types)⟩, after)

theorem node_step (tree : Node) :
    NodeStep config path field inherited before tree
      (node config path field inherited before tree) := by
  cases tree with
  | leaf kind params place =>
      simp only [node]
      split
      next fault after step => exact .leafFault step
      next element types after step => exact .leaf step
  | compound kind params place dynamic properties =>
      simp only [node]
      split
      next fault after taken =>
        obtain ⟨cause, refused, rfl, rfl⟩ := takeName_error taken
        exact .unnamed refused
      next name middle taken =>
        have named := takeName_ok taken
        split
        next accepts => exact .openMap named accepts
        next closed =>
          split
          next fault after below => exact .childFault named closed below
          next fields after below => exact .record named closed below

/-- What compiling the fields of a record can come to. -/
inductive ChildrenStep (overrides : Overrides) : Properties → Step (List Child) → Prop where
  | nil : ChildrenStep overrides [] (.ok [], before)
  | fault {name : String} {child : Node} {rest : Properties} {fault : Fault}
      {after : Naming.Registry}
      (first : node config (path ++ [name]) (overrides.lookup name) inherited before child =
        (.error fault, after)) :
      ChildrenStep overrides ((name, child) :: rest) (.error fault, after)
  | laterFault {name : String} {child : Node} {rest : Properties} {compiled : Compiled}
      {fault : Fault} {middle after : Naming.Registry}
      (first : node config (path ++ [name]) (overrides.lookup name) inherited before child =
        (.ok compiled, middle))
      (later : children config path overrides inherited middle rest = (.error fault, after)) :
      ChildrenStep overrides ((name, child) :: rest) (.error fault, after)
  | cons {name : String} {child : Node} {rest : Properties} {compiled : Compiled}
      {others : List Child} {middle after : Naming.Registry}
      (first : node config (path ++ [name]) (overrides.lookup name) inherited before child =
        (.ok compiled, middle))
      (later : children config path overrides inherited middle rest = (.ok others, after)) :
      ChildrenStep overrides ((name, child) :: rest)
        (.ok (⟨name, child.kind, compiled⟩ :: others), after)

theorem children_step (overrides : Overrides) (properties : Properties) :
    ChildrenStep config path inherited before overrides properties
      (children config path overrides inherited before properties) := by
  cases properties with
  | nil =>
      rw [children]
      exact .nil
  | cons entry rest =>
      obtain ⟨name, child⟩ := entry
      simp only [children]
      split
      next fault after first => exact .fault first
      next compiled middle first =>
        split
        next fault after later => exact .laterFault first later
        next others after later => exact .cons first later

end

/-! ## Forests -/

/-- The forest that the compiled top of a mapping gives. -/
def Compiled.forest (compiled : Compiled) : Forest :=
  ⟨compiled.element.plain, compiled.types⟩

theorem ofProperties_eq (config : Config) (root : String) (properties : Properties) :
    Forest.ofProperties config root properties =
      (node config [root] (some (.mk {} config.fields)) none []
        (.compound .object [] [] none properties)).1.map Compiled.forest := by
  unfold Forest.ofProperties
  split
  next compiled ok => rw [ok]; rfl
  next fault failed => rw [failed]; rfl

theorem ofProperties_ok {config : Config} {root : String} {properties : Properties}
    {forest : Forest} (compiled : Forest.ofProperties config root properties = .ok forest) :
    ∃ top after, node config [root] (some (.mk {} config.fields)) none []
      (.compound .object [] [] none properties) = (.ok top, after) ∧ top.forest = forest := by
  rw [ofProperties_eq] at compiled
  generalize node config [root] (some (.mk {} config.fields)) none []
    (.compound .object [] [] none properties) = step at compiled ⊢
  obtain ⟨result, after⟩ := step
  cases result with
  | error fault => cases compiled
  | ok top => exact ⟨top, after, rfl, Except.ok.inj compiled⟩

end StoreSchema.Compile
