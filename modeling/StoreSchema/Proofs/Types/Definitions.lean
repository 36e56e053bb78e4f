import StoreSchema.Proofs.Types.Steps

/-! # Where definitions come from

Every definition of a forest was made in one of three places: for a closed record from its compiled
fields, for an open map, or for a leaf whose plan asks for a type. Its name is the one that its path
was given there. What holds of the definitions made there holds of all definitions of a forest.
-/

namespace StoreSchema

namespace Compile

/-- What a definition was made from. -/
inductive Origin : Definition → Prop where
  | record (name wireName : String) (path : List String) (kind : Kind) (fields : List Child) :
      Origin (recordDefinition name wireName path kind fields)
  | openMap (name wireName : String) (path : List String) (kind : Kind) :
      Origin (openDefinition name wireName path kind)
  | leaf (name : String) (path : List String) {kind : Kind} {place : FieldPath}
      {params : List (String × Json)} {policy : Policy} {type : LeafType}
      (planned : planLeaf kind place params policy = .ok (.generated type)) :
      Origin ⟨name, name, path, kind, type.body, type.dependencies⟩

/-- How a definition was made: from what, and with the name that its path was given. -/
inductive Made (strategy : Naming.Strategy) : Definition → Prop where
  | record {path : List String} {name : String} {before after : Naming.Registry}
      (named : before.generate strategy path = .ok (name, after)) (kind : Kind)
      (fields : List Child) :
      Made strategy (recordDefinition name (strategy.wireName name) path kind fields)
  | openMap {path : List String} {name : String} {before after : Naming.Registry}
      (named : before.generate strategy path = .ok (name, after)) (kind : Kind) :
      Made strategy (openDefinition name (strategy.wireName name) path kind)
  | leaf {path : List String} {name : String} {before after : Naming.Registry}
      (named : before.generate strategy path = .ok (name, after)) {kind : Kind} {place : FieldPath}
      {params : List (String × Json)} {policy : Policy} {type : LeafType}
      (planned : planLeaf kind place params policy = .ok (.generated type)) :
      Made strategy ⟨name, name, path, kind, type.body, type.dependencies⟩

theorem Made.origin {strategy : Naming.Strategy} {definition : Definition}
    (made : Made strategy definition) : Origin definition := by
  cases made with
  | record named kind fields => exact .record _ _ _ kind fields
  | openMap named kind => exact .openMap _ _ _ kind
  | leaf named planned => exact .leaf _ _ planned

theorem Made.named {strategy : Naming.Strategy} {definition : Definition}
    (made : Made strategy definition) :
    (∃ before after : Naming.Registry,
      before.generate strategy definition.path = .ok (definition.name, after)) ∧
      (definition.wireName = strategy.wireName definition.name ∨
        definition.wireName = definition.name) := by
  cases made with
  | record named _ _ | openMap named _ => exact ⟨⟨_, _, named⟩, .inl rfl⟩
  | leaf named _ => exact ⟨⟨_, _, named⟩, .inr rfl⟩

theorem leaf_made {strategy : Naming.Strategy} {kind : Kind} {params : List (String × Json)}
    {place : FieldPath} {path : List String} {policy : Policy} {before after : Naming.Registry}
    {element : Element} {types : List Definition}
    (step : leaf strategy kind params place path policy before = (.ok (element, types), after)) :
    ∀ definition ∈ types, Made strategy definition := by
  have outcome := leaf_step strategy kind params place path policy before
  rw [step] at outcome
  cases outcome with
  | existing planned => simp
  | generated planned named =>
      intro definition inside
      cases List.mem_singleton.mp inside
      exact .leaf named planned

section

variable (config : Config)

mutual

theorem node_made (path : List String) (field : Option FieldPolicy)
    (inherited : Option Dynamic) (before : Naming.Registry) (tree : Node)
    {compiled : Compiled} {after : Naming.Registry}
    (step : node config path field inherited before tree = (.ok compiled, after)) :
    ∀ definition ∈ compiled.types, Made config.naming definition := by
  have outcome := node_step config path field inherited before tree
  rw [step] at outcome
  match tree with
  | .leaf kind params place =>
      cases outcome with
      | leaf step => exact leaf_made step
  | .compound kind params place dynamic properties =>
      cases outcome with
      | openMap named accepts =>
          intro definition inside
          cases List.mem_singleton.mp inside
          exact .openMap named kind
      | @record _ _ _ _ _ name middle _ fields named closed below =>
          exact List.forall_mem_cons.mpr ⟨.record named kind fields,
            children_made path _ (dynamic.or inherited) middle properties below⟩

theorem children_made (path : List String) (overrides : Overrides)
    (inherited : Option Dynamic) (before : Naming.Registry) (properties : Properties)
    {fields : List Child} {after : Naming.Registry}
    (step : children config path overrides inherited before properties = (.ok fields, after)) :
    ∀ definition ∈ fields.flatMap (·.compiled.types), Made config.naming definition := by
  have outcome := children_step config path inherited before overrides properties
  rw [step] at outcome
  match properties with
  | [] =>
      cases outcome
      simp
  | (name, child) :: rest =>
      cases outcome with
      | @cons _ _ _ compiled others middle _ first later =>
          have here := node_made (path ++ [name]) _ inherited before child first
          have there := children_made path overrides inherited middle rest later
          rw [List.flatMap_cons]
          exact List.forall_mem_append.mpr ⟨here, there⟩

end

end

end Compile

namespace Forest

variable {config : Config} {root : String} {properties : Properties} {forest : Forest}
  (compiled : Forest.ofProperties config root properties = .ok forest)

include compiled

theorem made : ∀ definition ∈ forest.types, Compile.Made config.naming definition := by
  obtain ⟨top, after, step, rfl⟩ := Compile.ofProperties_ok compiled
  exact Compile.node_made config [root] _ none [] _ step

theorem origin : ∀ definition ∈ forest.types, Compile.Origin definition :=
  fun definition inside => (made compiled definition inside).origin

end Forest

end StoreSchema
