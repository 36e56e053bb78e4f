import StoreSchema.Proofs.Types.Mirror

/-! # Compiling along the walk

A compilation takes the sites of the schema tree one after the other: each is planned and takes its
name before the sites behind it, and the first step that fails ends the run with the path of its
site. The names that are given out on the way are those of the definitions.
-/

namespace StoreSchema

/-- A path and the name that is given for it. -/
abbrev Title := List String × String

def Definition.title (definition : Definition) : Title :=
  (definition.path, definition.name)

namespace Site

variable (config : Config) (root : String)

/-- Takes a name for the definition of a site. -/
def takeTitle (site : Site) (taken : Naming.Registry) :
    Except Compile.Cause (List Title × Naming.Registry) :=
  match taken.generate config.naming (root :: site.names) with
  | .ok (name, after) => .ok ([(root :: site.names, name)], after)
  | .error fault => .error (.naming fault)

/-- The own step of a site, apart from the sites below it: a leaf is planned, and a site with a
    definition takes a name for it. -/
def step (site : Site) (taken : Naming.Registry) :
    Except Compile.Cause (List Title × Naming.Registry) :=
  match site.node with
  | .leaf kind params path =>
    match Compile.planLeaf kind path params (config.policyAt site.names kind) with
    | .error cause => .error cause
    | .ok (.existing _ _) => .ok ([], taken)
    | .ok (.generated _) => site.takeTitle config root taken
  | .compound _ _ _ _ _ => site.takeTitle config root taken

end Site

namespace Compile

/-- What a run along sites comes to: the names that are given out and what is taken after them. -/
abbrev Outcome := Except Fault (List Title × Naming.Registry)

/-- The outcome of a run that has given out names before it goes on. -/
def Outcome.after (titles : List Title) : Outcome → Outcome
  | .error fault => .error fault
  | .ok (others, taken) => .ok (titles ++ others, taken)

theorem Outcome.after_nil (outcome : Outcome) : outcome.after [] = outcome := by
  cases outcome <;> rfl

theorem Outcome.after_eq_error {titles : List Title} {outcome : Outcome} {fault : Fault} :
    outcome.after titles = .error fault ↔ outcome = .error fault := by
  cases outcome <;> simp [Outcome.after]

theorem Outcome.after_append (first second : List Title) (outcome : Outcome) :
    outcome.after (first ++ second) = (outcome.after second).after first := by
  cases outcome with
  | error fault => rfl
  | ok result => simp [Outcome.after]

section

variable (config : Config) (root : String)

/-- The own steps of sites one after the other, up to the first one that fails. -/
def along (taken : Naming.Registry) : List Site → Outcome
  | [] => .ok ([], taken)
  | site :: rest =>
    match site.step config root taken with
    | .error cause => .error (.located site.names (.bare cause))
    | .ok (titles, taken) => (along taken rest).after titles

variable {config root} {taken middle : Naming.Registry} {titles : List Title}

theorem along_fails {site : Site} {rest : List Site} {cause : Cause}
    (fails : site.step config root taken = .error cause) :
    along config root taken (site :: rest) = .error (.located site.names (.bare cause)) := by
  simp only [along, fails]

theorem along_passes {site : Site} {rest : List Site}
    (passes : site.step config root taken = .ok (titles, middle)) :
    along config root taken (site :: rest) = (along config root middle rest).after titles := by
  simp only [along, passes]

theorem along_append_error {first second : List Site} {fault : Fault}
    (fails : along config root taken first = .error fault) :
    along config root taken (first ++ second) = .error fault := by
  induction first generalizing taken with
  | nil => cases fails
  | cons site rest ih =>
      rw [List.cons_append]
      cases stepped : site.step config root taken with
      | error cause =>
          rw [along_fails stepped] at fails ⊢
          exact fails
      | ok result =>
          rw [along_passes stepped, Outcome.after_eq_error] at fails ⊢
          exact ih fails

theorem along_append_ok {first second : List Site}
    (passes : along config root taken first = .ok (titles, middle)) :
    along config root taken (first ++ second) =
      (along config root middle second).after titles := by
  induction first generalizing taken titles with
  | nil =>
      cases passes
      rw [List.nil_append, Outcome.after_nil]
  | cons site rest ih =>
      rw [List.cons_append]
      cases stepped : site.step config root taken with
      | error cause =>
          rw [along_fails stepped] at passes
          cases passes
      | ok result =>
          rw [along_passes stepped] at passes ⊢
          cases later : along config root result.2 rest with
          | error other =>
              rw [later] at passes
              cases passes
          | ok others =>
              rw [later] at passes
              cases passes
              rw [ih later, Outcome.after_append]

end

/-! ## The walk of a compilation -/

/-- The names that a compiled field gives out, and what is taken after them. -/
def titled : Step Compiled → Outcome
  | (.error fault, _) => .error fault
  | (.ok compiled, after) => .ok (compiled.types.map Definition.title, after)

/-- The names that the fields of a record give out, and what is taken after them. -/
def titledBelow : Step (List Child) → Outcome
  | (.error fault, _) => .error fault
  | (.ok fields, after) => .ok ((fields.flatMap (·.compiled.types)).map Definition.title, after)

section

variable {config : Config} {root : String} {names : FieldPath} {inherited : Option Dynamic}
  {before : Naming.Registry}

theorem leaf_along {kind : Kind} {params : List (String × Json)} {place : FieldPath}
    (placed : place = names) :
    titled (node config (root :: names) (config.overrideAt names) inherited before
        (.leaf kind params place)) =
      along config root before [⟨names, .leaf kind params place, inherited⟩] := by
  subst placed
  have planned := leaf_step config.naming kind params place (root :: place)
    (config.policyAt place kind) before
  simp only [node, along, Site.step]
  rw [← Config.policyAt]
  generalize leaf config.naming kind params place (root :: place) (config.policyAt place kind) before =
    result at planned ⊢
  cases planned with
  | refused planned =>
      simp only [planned]
      rfl
  | existing planned =>
      simp only [planned]
      rfl
  | unnamed planned refused =>
      simp only [planned, Site.takeTitle, refused]
      rfl
  | generated planned named =>
      simp only [planned, Site.takeTitle, named]
      rfl

section

variable {kind : Kind} {params : List (String × Json)} {place : FieldPath}
  {dynamic : Option Dynamic} {properties : Properties}

theorem compound_fails {fault : Naming.Error}
    (refused : before.generate config.naming (root :: names) = .error fault) :
    Site.step config root ⟨names, .compound kind params place dynamic properties, inherited⟩ before =
      .error (.naming fault) := by
  simp only [Site.step, Site.takeTitle, refused]

theorem compound_passes {name : String} {after : Naming.Registry}
    (named : before.generate config.naming (root :: names) = .ok (name, after)) :
    Site.step config root ⟨names, .compound kind params place dynamic properties, inherited⟩ before =
      .ok ([(root :: names, name)], after) := by
  simp only [Site.step, Site.takeTitle, named]

end

end

mutual

/-- Compiling a field goes along the sites at and below it. -/
theorem node_along (config : Config) (root : String) (names : FieldPath)
    (inherited : Option Dynamic) (before : Naming.Registry) (tree : Node)
    (placed : tree.Placed names) :
    titled (node config (root :: names) (config.overrideAt names) inherited before tree) =
      along config root before (tree.walk names inherited) := by
  match tree with
  | .leaf kind params place =>
      rw [Node.Placed] at placed
      rw [Node.walk]
      exact leaf_along placed
  | .compound kind params place dynamic properties =>
      rw [Node.Placed] at placed
      have below := fun middle => children_along config root names (dynamic.or inherited) middle
        properties placed.2
      have step := node_step config (root :: names) (config.overrideAt names) inherited before
        (.compound kind params place dynamic properties)
      generalize node config (root :: names) (config.overrideAt names) inherited before
        (.compound kind params place dynamic properties) = result at step ⊢
      rw [Node.walk]
      cases step with
      | unnamed refused =>
          rw [along_fails (compound_fails refused)]
          rfl
      | openMap named accepts =>
          rw [along_passes (compound_passes named), if_pos accepts]
          rfl
      | @childFault _ _ _ _ _ name middle after fault named closed failed =>
          rw [along_passes (compound_passes named), if_neg closed, ← below middle, failed]
          rfl
      | @record _ _ _ _ _ name middle after fields named closed compiled =>
          rw [along_passes (compound_passes named), if_neg closed, ← below middle, compiled]
          rfl

theorem children_along (config : Config) (root : String) (names : FieldPath)
    (inherited : Option Dynamic) (before : Naming.Registry) (properties : Properties)
    (placed : properties.Placed names) :
    titledBelow (children config (root :: names)
        (((config.overrideAt names).map FieldPolicy.children).getD []) inherited before
        properties) =
      along config root before (properties.walk names inherited) := by
  match properties with
  | [] =>
      rw [children, Properties.walk]
      rfl
  | (name, child) :: rest =>
      rw [Properties.Placed] at placed
      have first := node_along config root (names ++ [name]) inherited before child placed.1
      have later := fun middle => children_along config root names inherited middle rest placed.2
      have step := children_step config (root :: names) inherited before
        (((config.overrideAt names).map FieldPolicy.children).getD []) ((name, child) :: rest)
      generalize children config (root :: names)
        (((config.overrideAt names).map FieldPolicy.children).getD []) inherited before
        ((name, child) :: rest) = result at step ⊢
      rw [Properties.walk]
      cases step with
      | fault failed =>
          rw [← Config.overrideAt_below, List.cons_append] at failed
          rw [failed] at first
          rw [along_append_error first.symm]
          rfl
      | @laterFault _ _ _ compiled fault middle after done failed =>
          rw [← Config.overrideAt_below, List.cons_append] at done
          rw [done] at first
          rw [along_append_ok first.symm, ← later middle, failed]
          rfl
      | @cons _ _ _ compiled others middle after done more =>
          rw [← Config.overrideAt_below, List.cons_append] at done
          rw [done] at first
          rw [along_append_ok first.symm, ← later middle, more]
          simp [titledBelow, Outcome.after]

end

end Compile

/-- A forest gives out the names that the walk from the root gives out, and fails where it does. -/
theorem Forest.titles_along {config : Config} {root : String} {properties : Properties}
    (placed : properties.Placed []) :
    (Forest.ofProperties config root properties).map (·.types.map Definition.title) =
      (Compile.along config root [] (properties.top.walk [] none)).map Prod.fst := by
  have topPlaced : properties.top.Placed [] := ⟨rfl, placed⟩
  rw [← Compile.node_along config root [] none [] properties.top topPlaced]
  have start : config.overrideAt [] = some (.mk {} config.fields) := rfl
  rw [Compile.ofProperties_eq, ← Properties.top, start]
  obtain ⟨result, after⟩ := Compile.node config [root] (some (.mk {} config.fields)) none []
    properties.top
  cases result <;> rfl

end StoreSchema
