import StoreSchema.Proofs.Naming.Identifiers
import StoreSchema.Proofs.Types.Mirror

/-! # Appending a field

A compilation never looks ahead. The fields of a record are compiled one after the other, each with
the names that the fields before it left, so a field behind all others changes nothing of what they
became: the root gains a last member, and the definitions at and below the new field follow behind
all others.
-/

namespace StoreSchema

namespace Compile

/-! ## Records with more fields -/

section

variable (config : Config) (path : List String) (overrides : Overrides)
  (inherited : Option Dynamic)

/-- Fields are compiled in the order in which they stand: the later ones begin with the names that
    the earlier ones left. -/
theorem children_append (before : Naming.Registry) (first second : Properties) :
    children config path overrides inherited before (first ++ second) =
      match children config path overrides inherited before first with
      | (.error fault, after) => (.error fault, after)
      | (.ok fields, middle) =>
        match children config path overrides inherited middle second with
        | (.error fault, after) => (.error fault, after)
        | (.ok others, after) => (.ok (fields ++ others), after) := by
  induction first generalizing before with
  | nil =>
      rw [List.nil_append, children]
      dsimp only
      split <;> simp_all
  | cons entry rest ih =>
      obtain ⟨name, child⟩ := entry
      simp only [List.cons_append, children]
      obtain ⟨compiled, middle⟩ :=
        node config (path ++ [name]) (overrides.lookup name) inherited before child
      cases compiled with
      | error fault => rfl
      | ok compiled =>
          simp only [ih]
          obtain ⟨fields, after⟩ := children config path overrides inherited middle rest
          cases fields with
          | error fault => rfl
          | ok fields =>
              dsimp only
              obtain ⟨others, last⟩ := children config path overrides inherited after second
              cases others <;> rfl

variable {config path overrides inherited}

theorem children_concat_ok {before after : Naming.Registry} {properties : Properties}
    {name : String} {field : Node} {fields : List Child}
    (compiled : children config path overrides inherited before (properties ++ [(name, field)]) =
      (.ok fields, after)) :
    ∃ earlier middle last,
      children config path overrides inherited before properties = (.ok earlier, middle) ∧
      node config (path ++ [name]) (overrides.lookup name) inherited middle field =
        (.ok last, after) ∧
      fields = earlier ++ [⟨name, field.kind, last⟩] := by
  rw [children_append] at compiled
  split at compiled
  next => cases compiled
  next earlier middle first =>
    have step := children_step config path inherited middle overrides [(name, field)]
    generalize children config path overrides inherited middle [(name, field)] = second
      at step compiled
    cases step with
    | fault => cases compiled
    | laterFault => cases compiled
    | @cons _ _ _ last others between _ new none =>
        rw [children] at none
        cases none
        cases compiled
        exact ⟨earlier, middle, last, first, new, rfl⟩

end

theorem membersOf_concat (fields : List Child) (field : Child) :
    membersOf (fields ++ [field]) = membersOf fields ++
      [field.member
        (Naming.uniqueIdent (Naming.uniqueIdents (fields.map Child.name)) field.name)] := by
  have lengths : fields.length = (Naming.uniqueIdents (fields.map Child.name)).length := by
    rw [length_uniqueIdents, List.length_map]
  simp only [membersOf, List.map_append, List.map_cons, List.map_nil, Naming.uniqueIdents_concat,
    List.zip_append lengths]
  rfl

end Compile

/-! ## Forests with more fields -/

theorem Compile.childScopes_subset (fields others : List Child) :
    Keyed.sorted ([fieldScope, recordScope] ++ fields.flatMap childScopes) ⊆
      Keyed.sorted ([fieldScope, recordScope] ++ (fields ++ others).flatMap childScopes) := by
  intro scope inside
  rw [Keyed.mem_sorted] at inside ⊢
  rw [List.flatMap_append, ← List.append_assoc]
  exact List.mem_append_left _ inside

/-- A forest goes on from another one with one field more at the top: its root has one more member,
    the last, and may need more in scope, and the definitions of the sites at and below the field
    follow behind those that were there. -/
inductive Forest.Appends (config : Config) (root : String) (entry : String × Node) :
    Forest → Forest → Prop where
  | field {name : String} {top : Definition} {others added : List Definition}
      {members : List Member} {last : Member} {dependencies : List String}
      (record : top.body = .record members)
      (described : last.Describes config [] entry)
      (scopes : top.dependencies ⊆ dependencies)
      (below : List.Forall₂ (Definition.Describes config root)
        ((entry.2.walk [entry.1] none).filter (Site.ownsType config)) added) :
      Forest.Appends config root entry ⟨name, top :: others⟩
        ⟨name, { top with body := .record (members ++ [last]), dependencies } ::
          (others ++ added)⟩

theorem Forest.appends_child {config : Config} {root name wireName : String} {kind : Kind}
    {fields : List Compile.Child} {child : Compile.Child} {field : Node}
    (kinds : child.kind = field.kind)
    (mirrored : Compile.Mirrored config root [child.name] none field child.compiled) :
    Forest.Appends config root (child.name, field)
      ⟨name, Compile.recordDefinition name wireName [root] kind fields ::
        fields.flatMap (·.compiled.types)⟩
      ⟨name, Compile.recordDefinition name wireName [root] kind (fields ++ [child]) ::
        (fields ++ [child]).flatMap (·.compiled.types)⟩ := by
  have types : (fields ++ [child]).flatMap (·.compiled.types) =
      fields.flatMap (·.compiled.types) ++ child.compiled.types := by
    simp
  rw [types, Compile.recordDefinition, Compile.recordDefinition, Compile.membersOf_concat]
  exact .field rfl ⟨rfl, kinds, mirrored.policy, rfl, rfl⟩ (Compile.childScopes_subset fields [child])
    mirrored.walked

/-- Where a mapping compiles with a field behind all others, it compiles without it, and nothing
    that comes of the other fields differs. -/
theorem appending_is_conservative {config : Config} {root name : String} {field : Node}
    {properties : Properties} {larger : Forest}
    (behind : ∀ other ∈ properties.map Prod.fst, other < name)
    (compiled : Forest.ofProperties config root (Keyed.insert name field properties) =
      .ok larger) :
    ∃ smaller, Forest.ofProperties config root properties = .ok smaller ∧
      Forest.Appends config root (name, field) smaller larger := by
  rw [Keyed.insert_of_above field behind] at compiled
  obtain ⟨top, after, step, rfl⟩ := Compile.ofProperties_ok compiled
  have outcome := Compile.node_step config [root] (some (.mk {} config.fields)) none []
    (.compound .object [] [] none (properties ++ [(name, field)]))
  rw [step] at outcome
  cases outcome with
  | openMap named accepts => cases accepts
  | @record _ _ _ _ _ rootName taken _ fields named closed below =>
      obtain ⟨earlier, middle, last, first, new, rfl⟩ := Compile.children_concat_ok below
      have mirrored := Compile.node_mirrored config root [name] none middle field new
      refine ⟨⟨rootName, Compile.recordDefinition rootName (config.naming.wireName rootName) [root]
        .object earlier :: earlier.flatMap (·.compiled.types)⟩, ?_, ?_⟩
      · simp only [Compile.ofProperties_eq, Compile.node, Compile.takeName, named, first,
          if_neg closed]
        rfl
      · let child : Compile.Child := ⟨name, field.kind, last⟩
        have kinds : child.kind = field.kind := rfl
        exact Forest.appends_child kinds mirrored

namespace Sample

/-- A field behind all others, with a manager of its own. -/
def zone : Node :=
  .compound .nested [] ["zone"] none
    [("manager", .compound .object [] ["zone", "manager"] none [])]

/-- The root with the zone as its last member. -/
def zonedDoc : Definition :=
  { doc with
    body := .record (doc.members ++
      [⟨"zone", "zone", .nested, {}, .compound "Zone" "ZoneRaw", .optionalList, .array⟩]) }

/-- The manager of a zone makes way for the manager that was there before. -/
def zoned : List Definition :=
  [{ name := "Zone", wireName := "ZoneRaw", path := ["doc", "zone"], kind := .nested
     body := .record
       [⟨"manager", "manager", .object, {}, .compound "ZoneManager" "ZoneManagerRaw",
         .optionalList, .array⟩]
     dependencies := [Compile.fieldScope, Compile.recordScope] },
   { name := "ZoneManager", wireName := "ZoneManagerRaw", path := ["doc", "zone", "manager"]
     kind := .object
     body := .record []
     dependencies := [Compile.fieldScope, Compile.recordScope] }]

def zonedForest : Forest := ⟨"Doc", zonedDoc :: [load, manager, extra] ++ zoned⟩

theorem zoned_compiled : Forest.ofProperties config "doc" (Keyed.insert "zone" zone properties) =
    .ok zonedForest := by
  with_unfolding_all rfl

end Sample

theorem sample_appending_is_conservative :
    (∀ other ∈ Sample.properties.map Prod.fst, other < "zone") ∧
      ∃ smaller, Forest.ofProperties Sample.config "doc" Sample.properties = .ok smaller ∧
        Forest.Appends Sample.config "doc" ("zone", Sample.zone) smaller Sample.zonedForest := by
  have behind : ∀ other ∈ Sample.properties.map Prod.fst, other < "zone" := by
    decide
  exact ⟨behind, appending_is_conservative behind Sample.zoned_compiled⟩

end StoreSchema
