import StoreSchema.Proofs.Types.Mirror

/-! # Forests of mappings

The forest of a mapping lists the definitions of the sites that own a type, in the order of the
walk through the schema tree. Its members have the names of the declared fields in ascending order,
and each definition behind the root is the one that a single member refers to.
-/

namespace StoreSchema

theorem Definition.members_of_record {definition : Definition} {members : List Member}
    (body : definition.body = .record members) : definition.members = members := by
  rw [Definition.members, body]

namespace Forest

variable {config : Config} {root : String} {properties : Properties} {forest : Forest}

theorem compiled_top (compiled : Forest.ofProperties config root properties = .ok forest) :
    ∃ fields, Compile.Mirrored config root [] none properties.top
      ⟨config.policyAt [] .object,
        .compound forest.root (config.naming.wireName forest.root), forest.types⟩ ∧
      forest.types = Compile.recordDefinition forest.root (config.naming.wireName forest.root)
        [root] .object fields :: fields.flatMap (·.compiled.types) := by
  obtain ⟨top, after, step, rfl⟩ := Compile.ofProperties_ok compiled
  have mirrored := Compile.node_mirrored config root [] none [] properties.top step
  have outcome := Compile.node_step config [root] (some (.mk {} config.fields)) none []
    (.compound .object [] [] none properties)
  rw [step] at outcome
  cases outcome with
  | openMap named accepts => cases accepts
  | @record _ _ _ _ _ name middle _ fields named closed below =>
      exact ⟨fields, mirrored, rfl⟩

/-- The definitions of a forest stand for the sites that own a type, in the order of the walk. -/
theorem walked (compiled : Forest.ofProperties config root properties = .ok forest) :
    List.Forall₂ (Definition.Describes config root)
      ((properties.top.walk [] none).filter (Site.ownsType config)) forest.types := by
  obtain ⟨-, mirrored, -⟩ := compiled_top compiled
  exact mirrored.walked

theorem paths_nodup (ordered : properties.Ordered)
    (compiled : Forest.ofProperties config root properties = .ok forest) :
    (forest.types.map Definition.path).Nodup := by
  have same : forest.types.map Definition.path =
      (((properties.top.walk [] none).filter (Site.ownsType config)).map Site.names).map
        (root :: ·) := by
    rw [List.map_map]
    exact (Lists.map_eq_map (fun site definition describes => describes.path.symm)
      (walked compiled)).symm
  rw [same]
  have sites := Node.walk_nodup [] none properties.top ordered
  exact List.Nodup.map (fun left right equal => List.tail_eq_of_cons_eq equal)
    (List.Nodup.sublist (List.Sublist.map _ List.filter_sublist) sites)

theorem members_ascending (ordered : properties.Ordered)
    (compiled : Forest.ofProperties config root properties = .ok forest) {definition : Definition}
    (inside : definition ∈ forest.types) :
    (definition.members.map Member.name).Pairwise (· < ·) := by
  obtain ⟨site, owner, describes⟩ := Lists.exists_left (walked compiled) inside
  have topOrdered : properties.top.Ordered := ordered
  have siteOrdered := Node.ordered_of_walk topOrdered site
    (List.mem_of_mem_filter owner)
  have body := describes.body
  obtain ⟨names, node, treatment⟩ := site
  unfold Definition.members
  generalize definition.body = what at body
  cases body with
  | openMap => exact .nil
  | leaf owned => cases owned <;> exact .nil
  | @record _ _ _ _ _ _ properties members closed fields =>
      have same : properties.map Prod.fst = members.map Member.name :=
        Lists.map_eq_map (fun entry member describes => describes.name.symm) fields
      rw [← same]
      exact (Properties.ordered_iff.mp siteOrdered).1

theorem names_nodup (ordered : properties.Ordered)
    (compiled : Forest.ofProperties config root properties = .ok forest) {definition : Definition}
    (inside : definition ∈ forest.types) {members : List Member}
    (body : definition.body = .record members) : (members.map Member.name).Nodup := by
  have ascending := members_ascending ordered compiled inside
  rw [Definition.members_of_record body] at ascending
  exact ascending.imp fun less => ne_of_lt less

theorem linked (compiled : Forest.ofProperties config root properties = .ok forest) :
    Linked forest.types := by
  obtain ⟨-, mirrored, -⟩ := compiled_top compiled
  exact mirrored.linked

/-! ## References -/

/-- A member stands at a position: the index of its definition and its own index there. -/
structure Holds (forest : Forest) (position : Nat × Nat) (parent : Definition) (member : Member) :
    Prop where
  owner : forest.types[position.1]? = some parent
  declared : parent.members[position.2]? = some member

/-- A member of an earlier definition refers to the definition at an index, which stands at the
    path of that member, and no other member bears its name. -/
def ReferredOnce (forest : Forest) (index : Nat) (child : Definition) : Prop :=
  ∃ position parent member, position.1 < index ∧ forest.Holds position parent member ∧
    child.Serves member.element (parent.path ++ [member.name]) ∧
    ∀ otherPosition otherParent other, forest.Holds otherPosition otherParent other →
      other.element.reference?.map Prod.fst = some child.name → otherPosition = position

theorem Holds.position_eq (ordered : properties.Ordered)
    (compiled : Forest.ofProperties config root properties = .ok forest) {left right : Nat × Nat}
    {leftParent rightParent : Definition} {leftMember rightMember : Member}
    (leftHolds : forest.Holds left leftParent leftMember)
    (rightHolds : forest.Holds right rightParent rightMember)
    (same : leftParent.path ++ [leftMember.name] = rightParent.path ++ [rightMember.name]) :
    left = right := by
  obtain ⟨paths, names⟩ := List.append_inj' same rfl
  obtain ⟨leftBound, -⟩ := List.getElem?_eq_some_iff.mp leftHolds.owner
  have parents : left.1 = right.1 := by
    refine (List.getElem?_inj (by simpa using leftBound) (paths_nodup ordered compiled)).mp ?_
    rw [List.getElem?_map, List.getElem?_map, leftHolds.owner, rightHolds.owner]
    exact congrArg some paths
  have sameParent : leftParent = rightParent :=
    Option.some.inj (leftHolds.owner.symm.trans (parents ▸ rightHolds.owner))
  subst sameParent
  have ascending := members_ascending ordered compiled (List.mem_of_getElem? leftHolds.owner)
  obtain ⟨memberBound, -⟩ := List.getElem?_eq_some_iff.mp leftHolds.declared
  refine Prod.ext parents ((List.getElem?_inj (by simpa using memberBound)
    (ascending.imp fun less => ne_of_lt less)).mp ?_)
  rw [List.getElem?_map, List.getElem?_map, leftHolds.declared, rightHolds.declared]
  exact congrArg some (List.cons.inj names).1

theorem serves_of_reference (compiled : Forest.ofProperties config root properties = .ok forest)
    {parent child : Definition} {member : Member} (inside : parent ∈ forest.types)
    (declared : member ∈ parent.members) (present : child ∈ forest.types)
    (named : member.element.reference?.map Prod.fst = some child.name) :
    child.Serves member.element (parent.path ++ [member.name]) := by
  obtain ⟨reference, refers, sameName⟩ := Option.map_eq_some_iff.mp named
  obtain ⟨target, found, serves⟩ :=
    linked compiled parent inside member declared (by rw [refers]; rfl)
  have targetName : target.name = child.name := by
    rw [← sameName, Option.some.inj (refers.symm.trans serves.refers)]
  have same : target = child := by
    refine Option.some.inj ((find?_eq_some compiled found).symm.trans ?_)
    rw [targetName]
    exact find?_eq_some compiled present
  exact same ▸ serves

theorem index_eq_zero (compiled : Forest.ofProperties config root properties = .ok forest)
    {index : Nat} {definition : Definition} (stands : forest.types[index]? = some definition)
    (named : definition.name = forest.root) : index = 0 := by
  obtain ⟨fields, -, top⟩ := compiled_top compiled
  obtain ⟨after, issued⟩ := types_issued compiled
  have names : (forest.types.map Definition.name).Nodup :=
    List.pairwise_map.mpr (issued.apart.imp fun apart => apart.name)
  have nonempty : 0 < (forest.types.map Definition.name).length := by simp [top]
  refine ((List.getElem?_inj nonempty names).mp ?_).symm
  rw [List.getElem?_map, List.getElem?_map, stands, Option.map_some, named, top]
  rfl

/-- Every definition but the root is the one that a single member refers to. -/
theorem referredOnce (ordered : properties.Ordered)
    (compiled : Forest.ofProperties config root properties = .ok forest) {index : Nat}
    {child : Definition} (stands : forest.types[index]? = some child) (later : 0 < index) :
    forest.ReferredOnce index child := by
  obtain ⟨-, mirrored, -⟩ := compiled_top compiled
  rcases mirrored.reached.from_before stands with known | ⟨earlier, less, parent, found, reference⟩
  · have rootName : child.name = forest.root := (congrArg Prod.fst (Option.some.inj known)).symm
    exact absurd (index_eq_zero compiled stands rootName) (ne_of_gt later)
  · obtain ⟨member, declared, refers⟩ := reference
    obtain ⟨place, holdsMember⟩ := List.mem_iff_getElem?.mp declared
    have present := List.mem_of_getElem? stands
    have serves := serves_of_reference compiled (List.mem_of_getElem? found) declared present
      (by rw [refers]; rfl)
    refine ⟨(earlier, place), parent, member, less, ⟨found, holdsMember⟩, serves, ?_⟩
    intro otherPosition otherParent other holds named
    have otherServes := serves_of_reference compiled (List.mem_of_getElem? holds.owner)
      (List.mem_of_getElem? holds.declared) present named
    exact holds.position_eq ordered compiled ⟨found, holdsMember⟩
      (otherServes.path.symm.trans serves.path)

theorem serves_at_path (ordered : properties.Ordered)
    (compiled : Forest.ofProperties config root properties = .ok forest)
    {parent child : Definition} {member : Member} (inside : parent ∈ forest.types)
    (declared : member ∈ parent.members) (present : child ∈ forest.types)
    (path : child.path = parent.path ++ [member.name]) :
    child.Serves member.element (parent.path ++ [member.name]) := by
  obtain ⟨index, stands⟩ := List.mem_iff_getElem?.mp present
  obtain ⟨parentIndex, parentAt⟩ := List.mem_iff_getElem?.mp inside
  obtain ⟨place, memberAt⟩ := List.mem_iff_getElem?.mp declared
  have later : 0 < index := by
    refine Nat.pos_of_ne_zero fun first => ?_
    subst first
    obtain ⟨site, -, describes⟩ := Lists.exists_left (walked compiled) inside
    obtain ⟨fields, -, top⟩ := compiled_top compiled
    rw [top] at stands
    rw [← Option.some.inj stands, describes.path] at path
    simp [Compile.recordDefinition] at path
  obtain ⟨position, owner, other, -, holds, serves, -⟩ := referredOnce ordered compiled stands later
  have here : forest.Holds (parentIndex, place) parent member := ⟨parentAt, memberAt⟩
  have same := holds.position_eq ordered compiled here (serves.path.symm.trans path)
  subst same
  cases Option.some.inj (holds.owner.symm.trans parentAt)
  cases Option.some.inj (holds.declared.symm.trans memberAt)
  exact serves

/-! ## The whole forest -/

/-- A forest lists what the sites of a tree define, in the order of the walk from the root; members
    refer to the definition at their own path and to nothing else; and each definition but the root
    is the one that a single member refers to. -/
structure Mirrors (config : Config) (root : String) (properties : Properties) (forest : Forest) :
    Prop where
  ordered : properties.Ordered
  placed : ∀ site ∈ properties.top.walk [] none, site.node.path = site.names
  walked : List.Forall₂ (Definition.Describes config root)
    ((properties.top.walk [] none).filter (Site.ownsType config)) forest.types
  linked : Linked forest.types
  served : ∀ parent ∈ forest.types, ∀ member ∈ parent.members, ∀ child ∈ forest.types,
    child.path = parent.path ++ [member.name] →
      child.Serves member.element (parent.path ++ [member.name])
  referred : ∀ index child, forest.types[index]? = some child → 0 < index →
    forest.ReferredOnce index child
  root : ∃ fields, forest.types[0]? = some (Compile.recordDefinition forest.root
    (config.naming.wireName forest.root) [root] .object fields)

end Forest

/-- The forest of a mapping that was read mirrors the schema tree. -/
theorem forest_mirrors_mapping {document : Json} {mapping : Mapping} {config : Config}
    {root : String} {forest : Forest} (read : Mapping.ofJson document = .ok mapping)
    (compiled : Forest.ofProperties config root mapping.properties = .ok forest) :
    forest.Mirrors config root mapping.properties := by
  obtain ⟨ordered, placed⟩ := Mapping.ofJson_placed read
  obtain ⟨fields, -, top⟩ := Forest.compiled_top compiled
  have topPlaced : mapping.properties.top.Placed [] := ⟨rfl, placed⟩
  exact
    { ordered := ordered
      placed := Node.path_of_walk topPlaced
      walked := Forest.walked compiled
      linked := Forest.linked compiled
      served := fun parent inside member declared child present path =>
        Forest.serves_at_path ordered compiled inside declared present path
      referred := fun index child stands later => Forest.referredOnce ordered compiled stands later
      root := ⟨fields, by rw [top]; rfl⟩ }

theorem sample_forest_mirrors_mapping :
    Forest.Mirrors Sample.config "doc" Sample.properties Sample.forest :=
  forest_mirrors_mapping Sample.mapped Sample.compiled

end StoreSchema
