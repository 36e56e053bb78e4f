import StoreSchema.Proofs.Lists
import StoreSchema.Proofs.Schema.Reading
import StoreSchema.Proofs.Types.Leaves
import StoreSchema.Proofs.Types.Names
import StoreSchema.Proofs.Types.Steps

/-! # Forests mirror schema trees

The definitions of a forest stand for the sites of the schema tree that own a type, in the order of
the walk. Members refer to the definition at their own path, and every definition but the root is
referred to once, from before.
-/

namespace StoreSchema

/-! ## What a site asks for -/

namespace Config

/-- The override of the field to which names lead from the top. -/
def overrideAt (config : Config) (names : FieldPath) : Option FieldPolicy :=
  names.foldl (fun field name => field.bind (·.children.lookup name)) (some (.mk {} config.fields))

/-- The effective preferences of a field of a kind to which names lead from the top. -/
def policyAt (config : Config) (names : FieldPath) (kind : Kind) : Policy :=
  config.global.resolve kind (config.overrideAt names)

theorem overrideAt_below (config : Config) (names : FieldPath) (name : String) :
    config.overrideAt (names ++ [name]) =
      (((config.overrideAt names).map FieldPolicy.children).getD []).lookup name := by
  rw [overrideAt, List.foldl_append, List.foldl_cons, List.foldl_nil, ← overrideAt]
  cases config.overrideAt names <;> rfl

end Config

namespace Site

/-- Whether a field has a definition of its own. -/
def ownsType (config : Config) (site : Site) : Bool :=
  match site.node with
  | .leaf kind params _ => Compile.leafOwnsType kind params (config.policyAt site.names kind)
  | .compound _ _ _ _ _ => true

end Site

/-- A member stands for a field below a parent. -/
structure Member.Describes (config : Config) (parent : FieldPath) (field : String × Node)
    (member : Member) : Prop where
  name : member.name = field.1
  kind : member.kind = field.2.kind
  policy : member.policy = config.policyAt (parent ++ [field.1]) field.2.kind
  form : member.form = .ofPolicy member.policy
  cardinality : member.cardinality = .ofPolicy member.policy

/-- What is defined at a site: a map where undeclared keys are accepted, else a record with a
    member for every field, and for a leaf the type that it owns. -/
inductive Site.Defines (config : Config) : Site → Body → Prop where
  | openMap {names : FieldPath} {kind : Kind} {params : List (String × Json)} {path : FieldPath}
      {dynamic : Option Dynamic} {properties : Properties} :
      Site.Defines config ⟨names, .compound kind params path dynamic properties, some .accepted⟩
        .openMap
  | record {names : FieldPath} {kind : Kind} {params : List (String × Json)} {path : FieldPath}
      {dynamic treatment : Option Dynamic} {properties : Properties} {members : List Member}
      (closed : treatment ≠ some .accepted)
      (fields : List.Forall₂ (Member.Describes config names) properties members) :
      Site.Defines config ⟨names, .compound kind params path dynamic properties, treatment⟩
        (.record members)
  | leaf {names : FieldPath} {kind : Kind} {params : List (String × Json)} {path : FieldPath}
      {treatment : Option Dynamic} {body : Body} (owned : Compile.LeafBody kind body) :
      Site.Defines config ⟨names, .leaf kind params path, treatment⟩ body

/-- A definition stands for a site of the tree under a root. -/
structure Definition.Describes (config : Config) (root : String) (site : Site)
    (definition : Definition) : Prop where
  path : definition.path = root :: site.names
  kind : definition.kind = site.node.kind
  body : site.Defines config definition.body

/-! ## References -/

/-- The names of the definition that an element type refers to; existing types refer to none. -/
def Element.reference? : Element → Option (String × String)
  | .scalar _ _ => none
  | .leaf name _ => some (name, name)
  | .compound plain wire => some (plain, wire)

/-- An element type carries the names of a definition. -/
def Element.RefersTo (element : Element) (definition : Definition) : Prop :=
  element.reference? = some (definition.name, definition.wireName)

/-- A definition stands at a path, and an element type refers to it as to a pair or to a leaf. -/
structure Definition.Serves (element : Element) (path : List String) (definition : Definition) :
    Prop where
  path : definition.path = path
  refers : element.RefersTo definition
  pair : definition.isPair = element.isNested

/-- Members that refer to a definition refer to the one at their own path. -/
def Linked (types : List Definition) : Prop :=
  ∀ definition ∈ types, ∀ member ∈ definition.members, member.element.reference?.isSome →
    ∃ child ∈ types, child.Serves member.element (definition.path ++ [member.name])

/-- Every definition is known, or a member of one before it refers to it. -/
def Reached (known : Definition → Prop) : List Definition → Prop
  | [] => True
  | definition :: rest =>
    known definition ∧
      Reached (fun other => known other ∨ ∃ member ∈ definition.members,
        member.element.RefersTo other) rest

theorem Reached.mono {known more : Definition → Prop} {types : List Definition}
    (reached : Reached known types) (weaker : ∀ definition, known definition → more definition) :
    Reached more types := by
  induction types generalizing known more with
  | nil => trivial
  | cons definition rest ih =>
      obtain ⟨first, later⟩ := reached
      exact ⟨weaker definition first,
        ih later (fun other old => old.imp_left (weaker other))⟩

theorem Reached.append {known : Definition → Prop} {first second : List Definition}
    (left : Reached known first) (right : Reached known second) :
    Reached known (first ++ second) := by
  induction first generalizing known with
  | nil => exact right
  | cons definition rest ih =>
      exact ⟨left.1, ih left.2 (right.mono fun other old => .inl old)⟩

theorem Reached.from_before {known : Definition → Prop} {types : List Definition}
    (reached : Reached known types) {index : Nat} {definition : Definition}
    (stands : types[index]? = some definition) :
    known definition ∨ ∃ earlier < index, ∃ parent, types[earlier]? = some parent ∧
      ∃ member ∈ parent.members, member.element.RefersTo definition := by
  induction types generalizing known index with
  | nil => simp at stands
  | cons first rest ih =>
      cases index with
      | zero =>
          cases Option.some.inj stands
          exact .inl reached.1
      | succ index =>
          rw [List.getElem?_cons_succ] at stands
          rcases ih reached.2 stands with (old | ⟨member, inside, refers⟩) | ⟨earlier, less, parent, found⟩
          · exact .inl old
          · exact .inr ⟨0, index.succ_pos, first, rfl, member, inside, refers⟩
          · exact .inr ⟨earlier + 1, Nat.succ_lt_succ less, parent, found⟩

theorem Linked.append {first second : List Definition} (left : Linked first)
    (right : Linked second) : Linked (first ++ second) := by
  intro definition inside member declared refers
  cases List.mem_append.mp inside with
  | inl early =>
      obtain ⟨child, found, serves⟩ := left definition early member declared refers
      exact ⟨child, List.mem_append_left second found, serves⟩
  | inr late =>
      obtain ⟨child, found, serves⟩ := right definition late member declared refers
      exact ⟨child, List.mem_append_right first found, serves⟩

namespace Compile

/-! ## Members of a record -/

/-- A member has the name, the kind, the preferences and the element type of a compiled field, and
    the shape that these preferences ask for. -/
structure Child.Becomes (field : Child) (member : Member) : Prop where
  name : member.name = field.name
  kind : member.kind = field.kind
  policy : member.policy = field.compiled.policy
  element : member.element = field.compiled.element
  form : member.form = .ofPolicy member.policy
  cardinality : member.cardinality = .ofPolicy member.policy

theorem Child.becomes_member (field : Child) (ident : String) :
    field.Becomes (field.member ident) :=
  ⟨rfl, rfl, rfl, rfl, rfl, rfl⟩

theorem length_uniqueIdents (names : List String) :
    (Naming.uniqueIdents names).length = names.length := by
  have counted : ∀ taken : List String,
      (names.foldl (fun taken name => taken ++ [Naming.uniqueIdent taken name]) taken).length =
        taken.length + names.length := by
    induction names with
    | nil => simp
    | cons name rest ih =>
        intro taken
        simp only [List.foldl_cons, ih, List.length_append, List.length_cons, List.length_nil]
        omega
  simpa [Naming.uniqueIdents] using counted []

private theorem zip_becomes (fields : List Child) (idents : List String)
    (enough : idents.length = fields.length) :
    List.Forall₂ Child.Becomes fields
      ((fields.zip idents).map fun (field, ident) => field.member ident) := by
  induction fields generalizing idents with
  | nil => exact .nil
  | cons field rest ih =>
      cases idents with
      | nil => simp at enough
      | cons ident more =>
          exact .cons (field.becomes_member ident) (ih more (Nat.succ.inj enough))

theorem membersOf_become (fields : List Child) :
    List.Forall₂ Child.Becomes fields (membersOf fields) :=
  zip_becomes fields _ (by rw [length_uniqueIdents, List.length_map])

/-! ## Compiled fields -/

/-- A compiled field mirrors the tree at and below it. -/
structure Mirrored (config : Config) (root : String) (names : FieldPath)
    (inherited : Option Dynamic) (tree : Node) (compiled : Compiled) : Prop where
  policy : compiled.policy = config.policyAt names tree.kind
  walked : List.Forall₂ (Definition.Describes config root)
    ((tree.walk names inherited).filter (Site.ownsType config)) compiled.types
  linked : Linked compiled.types
  headed : compiled.element.reference?.isSome →
    ∃ head ∈ compiled.types, head.Serves compiled.element (root :: names)
  reached : Reached compiled.element.RefersTo compiled.types

/-- Compiled fields of a record mirror the trees below it. -/
structure MirroredBelow (config : Config) (root : String) (parent : FieldPath)
    (inherited : Option Dynamic) (properties : Properties) (fields : List Child) : Prop where
  matched : List.Forall₂
    (fun entry (field : Child) => field.name = entry.1 ∧ field.kind = entry.2.kind ∧
      field.compiled.policy = config.policyAt (parent ++ [entry.1]) entry.2.kind)
    properties fields
  walked : List.Forall₂ (Definition.Describes config root)
    ((properties.walk parent inherited).filter (Site.ownsType config))
    (fields.flatMap (·.compiled.types))
  linked : Linked (fields.flatMap (·.compiled.types))
  headed : ∀ field ∈ fields, field.compiled.element.reference?.isSome →
    ∃ head ∈ fields.flatMap (·.compiled.types),
      head.Serves field.compiled.element (root :: parent ++ [field.name])
  reached : Reached (fun definition => ∃ field ∈ fields,
    field.compiled.element.RefersTo definition) (fields.flatMap (·.compiled.types))

section

variable {config : Config} {root : String} {names : FieldPath} {inherited : Option Dynamic}

theorem leaf_mirrored {kind : Kind} {params : List (String × Json)} {place : FieldPath}
    {before after : Naming.Registry} {element : Element} {types : List Definition}
    (step : leaf config.naming kind params place (root :: names) (config.policyAt names kind) before =
      (.ok (element, types), after)) :
    Mirrored config root names inherited (.leaf kind params place)
      ⟨config.policyAt names kind, element, types⟩ := by
  have outcome := leaf_step config.naming kind params place (root :: names)
    (config.policyAt names kind) before
  rw [step] at outcome
  cases outcome with
  | existing planned =>
      have unowned : leafOwnsType kind params (config.policyAt names kind) = false :=
        planLeaf_fits planned
      refine ⟨rfl, ?_, ?_, ?_, trivial⟩
      · simp [Node.walk, Site.ownsType, unowned]
      · intro definition inside
        simp at inside
      · intro refers
        simp [Element.reference?] at refers
  | @generated type name _ planned named =>
      obtain ⟨owned, body⟩ := planLeaf_fits planned
      let own : Definition := ⟨name, name, root :: names, kind, type.body, type.dependencies⟩
      have siteOwns : Site.ownsType config ⟨names, .leaf kind params place, inherited⟩ = true := owned
      refine ⟨rfl, ?_, ?_, ?_, ?_⟩
      · rw [Node.walk, List.filter_cons_of_pos siteOwns, List.filter_nil]
        exact .cons ⟨rfl, rfl, .leaf body⟩ .nil
      · intro definition inside member declared
        cases List.mem_singleton.mp inside
        have none : own.members = [] := LeafBody.no_members body
        simp [none, own] at declared
      · intro _
        exact ⟨_, List.mem_singleton_self _, rfl, rfl, LeafBody.not_pair body⟩
      · exact ⟨rfl, trivial⟩

theorem openMap_mirrored {kind : Kind} {params : List (String × Json)} {place : FieldPath}
    {dynamic : Option Dynamic} {properties : Properties} {name wireName : String}
    (accepts : dynamic.or inherited = some .accepted) :
    Mirrored config root names inherited (.compound kind params place dynamic properties)
      ⟨config.policyAt names kind, .compound name wireName,
        [openDefinition name wireName (root :: names) kind]⟩ := by
  refine ⟨rfl, ?_, ?_, ?_, ?_⟩
  · rw [Node.walk, accepts, if_pos rfl, List.filter_cons_of_pos rfl, List.filter_nil]
    exact .cons ⟨rfl, rfl, .openMap⟩ .nil
  · intro definition inside member declared
    cases List.mem_singleton.mp inside
    simp [openDefinition, Definition.members] at declared
  · intro _
    exact ⟨_, List.mem_singleton_self _, rfl, rfl, rfl⟩
  · exact ⟨rfl, trivial⟩

theorem forall₂_members {properties : Properties} {fields : List Child}
    (below : MirroredBelow config root names inherited properties fields) :
    List.Forall₂ (Member.Describes config names) properties (membersOf fields) := by
  refine Lists.compose (fun entry field member matched becomes => ?_) below.matched
    (membersOf_become fields)
  obtain ⟨name, kind, policy⟩ := matched
  exact ⟨becomes.name.trans name, becomes.kind.trans kind, becomes.policy.trans policy,
    becomes.form, becomes.cardinality⟩

theorem record_mirrored {kind : Kind} {params : List (String × Json)} {place : FieldPath}
    {dynamic : Option Dynamic} {properties : Properties} {name wireName : String}
    {fields : List Child} (closed : dynamic.or inherited ≠ some .accepted)
    (below : MirroredBelow config root names (dynamic.or inherited) properties fields) :
    Mirrored config root names inherited (.compound kind params place dynamic properties)
      ⟨config.policyAt names kind, .compound name wireName,
        recordDefinition name wireName (root :: names) kind fields ::
          fields.flatMap (·.compiled.types)⟩ := by
  have become := membersOf_become fields
  refine ⟨rfl, ?_, ?_, ?_, ?_⟩
  · rw [Node.walk, if_neg closed, List.filter_cons_of_pos rfl]
    exact .cons ⟨rfl, rfl, .record closed (forall₂_members below)⟩ below.walked
  · intro definition inside member declared refers
    cases List.mem_cons.mp inside with
    | inl own =>
        subst own
        obtain ⟨field, compiled, becomes⟩ := Lists.exists_left become declared
        obtain ⟨head, found, serves⟩ := below.headed field compiled (becomes.element ▸ refers)
        refine ⟨head, List.mem_cons_of_mem _ found, ?_⟩
        rw [becomes.element, becomes.name]
        exact serves
    | inr deeper =>
        obtain ⟨child, found, serves⟩ := below.linked definition deeper member declared refers
        exact ⟨child, List.mem_cons_of_mem _ found, serves⟩
  · intro _
    exact ⟨_, List.mem_cons_self, rfl, rfl, rfl⟩
  · refine ⟨rfl, below.reached.mono fun definition known => ?_⟩
    obtain ⟨field, compiled, refers⟩ := known
    obtain ⟨member, declared, becomes⟩ := Lists.exists_right become compiled
    exact .inr ⟨member, declared, becomes.element ▸ refers⟩

theorem nil_mirrored : MirroredBelow config root names inherited [] [] := by
  refine ⟨.nil, ?_, ?_, ?_, trivial⟩
  · rw [Properties.walk]
    exact .nil
  · intro definition inside
    simp at inside
  · intro field inside
    simp at inside

theorem cons_mirrored {name : String} {child : Node} {rest : Properties} {compiled : Compiled}
    {others : List Child}
    (first : Mirrored config root (names ++ [name]) inherited child compiled)
    (later : MirroredBelow config root names inherited rest others) :
    MirroredBelow config root names inherited ((name, child) :: rest)
      (⟨name, child.kind, compiled⟩ :: others) := by
  refine ⟨.cons ⟨rfl, rfl, first.policy⟩ later.matched, ?_, first.linked.append later.linked, ?_,
    ?_⟩
  · rw [Properties.walk, List.filter_append]
    exact List.rel_append first.walked later.walked
  · intro field inside refers
    cases List.mem_cons.mp inside with
    | inl own =>
        subst own
        obtain ⟨head, found, serves⟩ := first.headed refers
        exact ⟨head, List.mem_append_left _ found, serves⟩
    | inr deeper =>
        obtain ⟨head, found, serves⟩ := later.headed field deeper refers
        exact ⟨head, List.mem_append_right _ found, serves⟩
  · refine Reached.append (first.reached.mono fun definition refers => ?_)
      (later.reached.mono fun definition known => ?_)
    · exact ⟨_, List.mem_cons_self, refers⟩
    · obtain ⟨field, inside, refers⟩ := known
      exact ⟨field, List.mem_cons_of_mem _ inside, refers⟩

end

mutual

/-- A field that compiles mirrors the tree at and below it. -/
theorem node_mirrored (config : Config) (root : String) (names : FieldPath)
    (inherited : Option Dynamic) (before : Naming.Registry) (tree : Node) {compiled : Compiled}
    {after : Naming.Registry}
    (step : node config (root :: names) (config.overrideAt names) inherited before tree =
      (.ok compiled, after)) :
    Mirrored config root names inherited tree compiled := by
  have outcome := node_step config (root :: names) (config.overrideAt names) inherited before tree
  rw [step] at outcome
  match tree with
  | .leaf kind params place =>
      cases outcome with
      | leaf step => exact leaf_mirrored step
  | .compound kind params place dynamic properties =>
      cases outcome with
      | openMap named accepts => exact openMap_mirrored accepts
      | @record _ _ _ _ _ name middle _ fields named closed below =>
          exact record_mirrored closed (children_mirrored config root names
            (dynamic.or inherited) middle properties below)

theorem children_mirrored (config : Config) (root : String) (names : FieldPath)
    (inherited : Option Dynamic) (before : Naming.Registry) (properties : Properties)
    {fields : List Child} {after : Naming.Registry}
    (step : children config (root :: names)
      (((config.overrideAt names).map FieldPolicy.children).getD []) inherited before properties =
      (.ok fields, after)) :
    MirroredBelow config root names inherited properties fields := by
  have outcome := children_step config (root :: names) inherited before
    (((config.overrideAt names).map FieldPolicy.children).getD []) properties
  rw [step] at outcome
  match properties with
  | [] =>
      cases outcome
      exact nil_mirrored
  | (name, child) :: rest =>
      cases outcome with
      | @cons _ _ _ compiled others middle _ first later =>
          rw [← Config.overrideAt_below] at first
          exact cons_mirrored (node_mirrored config root (names ++ [name]) inherited before child first)
            (children_mirrored config root names inherited middle rest later)

end

end Compile

end StoreSchema
