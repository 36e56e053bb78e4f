import StoreSchema.Proofs.Naming.Overlaps
import StoreSchema.Proofs.Types.Faults
import StoreSchema.Proofs.Types.Forests

/-! # Refusing overlaps only rejects

A configuration that refuses overlapping names, and one that differs from it only in that it numbers
them, are run beside each other. Up to the first overlap both runs are the same. There the one that
refuses stops, and the other puts a number behind the name and goes on.
-/

namespace StoreSchema

/-- The configuration with an answer to overlaps. -/
def Config.onOverlap (config : Config) (overlap : Naming.Overlap) : Config :=
  { config with naming := config.naming.onOverlap overlap }

@[simp] theorem Config.naming_onOverlap (config : Config) (overlap : Naming.Overlap) :
    (config.onOverlap overlap).naming = config.naming.onOverlap overlap := rfl

@[simp] theorem Config.global_onOverlap (config : Config) (overlap : Naming.Overlap) :
    (config.onOverlap overlap).global = config.global := rfl

namespace Compile

/-- The cause lies in the schema rather than in a name. -/
def Cause.OfSchema (cause : Cause) : Prop :=
  ∀ fault, cause ≠ .naming fault

theorem PlanCause.ofSchema {path : FieldPath} {cause : Cause} (planned : PlanCause path cause) :
    cause.OfSchema := by
  intro fault
  cases planned <;> simp

theorem planLeaf_ofSchema {kind : Kind} {path : FieldPath} {params : List (String × Json)}
    {policy : Policy} {cause : Cause} (fails : planLeaf kind path params policy = .error cause) :
    cause.OfSchema := by
  cases plain : kind.isCompound with
  | false => exact (planLeaf_error plain fails).ofSchema
  | true =>
      -- a compound kind without a body is a fault of the schema as well
      intro fault
      cases kind <;> cases plain <;> cases fails <;> simp

@[simp] theorem Fault.cause_locate (path : FieldPath) (fault : Fault) :
    (fault.locate path).cause = fault.cause := by
  cases fault <;> rfl

/-! ## Runs in which no name is refused -/

/-- A step that does not fail because of a name. -/
def Step.Unrefused {α : Type} (step : Step α) : Prop :=
  ∀ fault, step.1 = .error fault → fault.cause.OfSchema

theorem Step.unrefused_ok {α : Type} (value : α) (after : Naming.Registry) :
    Step.Unrefused (.ok value, after) := by
  intro fault same
  cases same

theorem Step.unrefused_error {α : Type} {fault : Fault} {after : Naming.Registry} :
    Step.Unrefused ((.error fault, after) : Step α) ↔ fault.cause.OfSchema := by
  constructor
  · intro unrefused
    exact unrefused fault rfl
  · intro ofSchema other same
    cases same
    exact ofSchema

theorem Step.Unrefused.passed_on {α β : Type} {fault : Fault} {after : Naming.Registry}
    (unrefused : Step.Unrefused ((.error fault, after) : Step α)) :
    Step.Unrefused ((.error fault, after) : Step β) :=
  unrefused_error.mpr (unrefused_error.mp unrefused)

theorem generate_kept {strategy : Naming.Strategy} {before after : Naming.Registry}
    {path : List String} {name : String}
    (named : before.generate (strategy.onOverlap .refuse) path = .ok (name, after)) :
    before.generate (strategy.onOverlap .number) path = .ok (name, after) := by
  have answers := before.generate_answers strategy path
  rw [named] at answers
  generalize before.generate (strategy.onOverlap .number) path = given at answers ⊢
  cases answers
  rfl

theorem leaf_unrefused {strategy : Naming.Strategy} {kind : Kind} {params : List (String × Json)}
    {place : FieldPath} {path : List String} {policy : Policy} {before : Naming.Registry}
    {result : Step (Element × List Definition)}
    (refusing : leaf (strategy.onOverlap .refuse) kind params place path policy before = result)
    (unrefused : result.Unrefused) :
    leaf (strategy.onOverlap .number) kind params place path policy before = result := by
  have step := leaf_step (strategy.onOverlap .refuse) kind params place path policy before
  rw [refusing] at step
  cases step with
  | refused planned => simp only [leaf, planned]
  | existing planned => simp only [leaf, planned]
  | unnamed planned refused => exact absurd rfl (Step.unrefused_error.mp unrefused _)
  | generated planned named => simp only [leaf, planned, takeName, generate_kept named]

mutual

/-- Where refusing overlaps refuses no name, numbering them makes no difference to a field. -/
theorem node_unrefused {config : Config} {path : List String} {field : Option FieldPolicy}
    {inherited : Option Dynamic} {before : Naming.Registry} (tree : Node) {result : Step Compiled}
    (refusing : node (config.onOverlap .refuse) path field inherited before tree = result)
    (unrefused : result.Unrefused) :
    node (config.onOverlap .number) path field inherited before tree = result := by
  have step := node_step (config.onOverlap .refuse) path field inherited before tree
  rw [refusing] at step
  match tree with
  | .leaf kind params place =>
      cases step with
      | leafFault step =>
          rw [Step.unrefused_error, Fault.cause_locate] at unrefused
          have kept := leaf_unrefused step (Step.unrefused_error.mpr unrefused)
          rw [Config.global_onOverlap] at kept
          simp only [node, Config.naming_onOverlap, Config.global_onOverlap, kept]
      | leaf step =>
          have kept := leaf_unrefused step (Step.unrefused_ok _ _)
          rw [Config.global_onOverlap] at kept
          simp only [node, Config.naming_onOverlap, Config.global_onOverlap, kept]
  | .compound kind params place dynamic properties =>
      cases step with
      | unnamed refused => exact absurd rfl (Step.unrefused_error.mp unrefused _)
      | openMap named accepts =>
          simp only [node, takeName, Config.naming_onOverlap, Config.global_onOverlap,
            Naming.Strategy.wireName_onOverlap, generate_kept named, accepts, if_true]
      | childFault named closed failed =>
          have kept := children_unrefused properties failed unrefused.passed_on
          simp only [node, takeName, Config.naming_onOverlap, generate_kept named, closed, if_false,
            kept]
      | record named closed compiled =>
          have kept := children_unrefused properties compiled (Step.unrefused_ok _ _)
          simp only [node, takeName, Config.naming_onOverlap, Config.global_onOverlap,
            Naming.Strategy.wireName_onOverlap, generate_kept named, closed, if_false, kept]

theorem children_unrefused {config : Config} {path : List String} {overrides : Overrides}
    {inherited : Option Dynamic} {before : Naming.Registry} (properties : Properties)
    {result : Step (List Child)}
    (refusing : children (config.onOverlap .refuse) path overrides inherited before properties =
      result)
    (unrefused : result.Unrefused) :
    children (config.onOverlap .number) path overrides inherited before properties = result := by
  have step := children_step (config.onOverlap .refuse) path inherited before overrides properties
  rw [refusing] at step
  match properties with
  | [] =>
      rw [children] at refusing ⊢
      exact refusing
  | (name, child) :: rest =>
      cases step with
      | fault failed =>
          have first := node_unrefused child failed unrefused.passed_on
          simp only [children, first]
      | laterFault compiled failed =>
          have first := node_unrefused child compiled (Step.unrefused_ok _ _)
          have later := children_unrefused rest failed unrefused
          simp only [children, first, later]
      | cons compiled others =>
          have first := node_unrefused child compiled (Step.unrefused_ok _ _)
          have later := children_unrefused rest others (Step.unrefused_ok _ _)
          simp only [children, first, later]

end

/-! ## Steps of both runs -/

/-- What the own step of a site comes to where overlaps are refused, and where they are numbered. -/
inductive StepAnswers (root : String) (site : Site) :
    Except Cause (List Title × Naming.Registry) → Except Cause (List Title × Naming.Registry) →
      Prop where
  | passes (result : List Title × Naming.Registry) : StepAnswers root site (.ok result) (.ok result)
  | fails {cause : Cause} (ofSchema : cause.OfSchema) :
      StepAnswers root site (.error cause) (.error cause)
  | overlap (name : String) (n : Nat) (positive : 0 < n) (after : Naming.Registry) :
      StepAnswers root site (.error (.naming (.overlap name (root :: site.names))))
        (.ok ([(root :: site.names, Naming.numbered name n)], after))

section

variable (config : Config) (root : String)

theorem takeTitle_answers {site : Site} (below : site.names ≠ []) (taken : Naming.Registry) :
    StepAnswers root site (site.takeTitle (config.onOverlap .refuse) root taken)
      (site.takeTitle (config.onOverlap .number) root taken) := by
  have answers := taken.generate_answers config.naming (root :: site.names)
  simp only [Site.takeTitle, Config.naming_onOverlap]
  generalize taken.generate (config.naming.onOverlap .refuse) (root :: site.names) = refusing
    at answers ⊢
  generalize taken.generate (config.naming.onOverlap .number) (root :: site.names) = numbering
    at answers ⊢
  cases answers with
  | named name after => exact .passes _
  | overlap name n positive after => exact .overlap name n positive after
  | short fault few =>
      have long := List.length_pos_iff.mpr below
      rw [List.length_cons] at few
      omega

theorem step_answers {site : Site} (below : site.names ≠ []) (taken : Naming.Registry) :
    StepAnswers root site (site.step (config.onOverlap .refuse) root taken)
      (site.step (config.onOverlap .number) root taken) := by
  have titled := takeTitle_answers config root below taken
  obtain ⟨names, node, treatment⟩ := site
  cases node with
  | compound => exact titled
  | leaf kind params path =>
      have samePolicy : (config.onOverlap .number).policyAt names kind =
        (config.onOverlap .refuse).policyAt names kind := rfl
      simp only [Site.step, samePolicy]
      cases planned : planLeaf kind path params
        ((config.onOverlap .refuse).policyAt names kind) with
      | error cause => exact .fails (planLeaf_ofSchema planned)
      | ok plan =>
          cases plan with
          | existing => exact .passes _
          | generated => exact titled

theorem top_passes (properties : Properties) :
    ∃ given, ∀ overlap,
      Site.step (config.onOverlap overlap) root ⟨[], properties.top, none⟩ [] = .ok given := by
  obtain ⟨⟨name, after⟩, named⟩ :=
    Naming.Registry.generate_of_none_taken config.naming (List.cons_ne_nil root [])
  exact ⟨([([root], name)], after), fun overlap => compound_passes (named overlap)⟩

/-! ## Runs along sites -/

variable {config root} {taken : Naming.Registry} {sites : List Site}

theorem along_numbering_fails (below : ∀ site ∈ sites, site.names ≠ []) {fault : Fault}
    (failed : along (config.onOverlap .number) root taken sites = .error fault) :
    ∃ site ∈ sites, ∃ cause, cause.OfSchema ∧ fault = .located site.names (.bare cause) := by
  obtain ⟨site, cause, first, located⟩ := along_eq_error failed
  obtain ⟨before, fails⟩ := first.fails
  have answers := step_answers config root (below site first.mem) before
  rw [fails] at answers
  generalize site.step (config.onOverlap .refuse) root before = refusing at answers
  cases answers with
  | fails ofSchema => exact ⟨site, first.mem, cause, ofSchema, located⟩

/-- What a run that numbers overlaps comes to once it has given a name with a number: it fails at a
    later site because of the schema, or it ends and has given out that name. -/
inductive Onward (title : Title) (later : List Site) : Outcome → Prop where
  | fails {site : Site} {cause : Cause} (behind : site ∈ later) (ofSchema : cause.OfSchema) :
      Onward title later (.error (.located site.names (.bare cause)))
  | ends {titles : List Title} {after : Naming.Registry} (given : title ∈ titles) :
      Onward title later (.ok (titles, after))

theorem Onward.after {title : Title} {later : List Site} {outcome : Outcome}
    (onward : Onward title later outcome) (titles : List Title) :
    Onward title later (outcome.after titles) := by
  cases onward with
  | fails behind ofSchema => exact .fails behind ofSchema
  | ends given => exact .ends (List.mem_append_right titles given)

/-- Where refusing overlaps fails because of a name, a site asked for a name that overlaps, and
    numbering overlaps has put a number behind it and gone on. -/
theorem along_overlaps (below : ∀ site ∈ sites, site.names ≠ []) {fault : Fault}
    {naming : Naming.Error}
    (refused : along (config.onOverlap .refuse) root taken sites = .error fault)
    (named : fault.cause = .naming naming) :
    ∃ earlier site later name n, sites = earlier ++ site :: later ∧ 0 < n ∧
      fault = .located site.names (.bare (.naming (.overlap name (root :: site.names)))) ∧
      Onward (root :: site.names, Naming.numbered name n) later
        (along (config.onOverlap .number) root taken sites) := by
  induction sites generalizing taken with
  | nil => cases refused
  | cons site rest ih =>
      obtain ⟨here, further⟩ := List.forall_mem_cons.mp below
      have answers := step_answers config root here taken
      generalize refusing : site.step (config.onOverlap .refuse) root taken = one at answers
      generalize numbering : site.step (config.onOverlap .number) root taken = other at answers
      cases answers with
      | passes result =>
          rw [along_passes refusing, Outcome.after_eq_error] at refused
          rw [along_passes numbering]
          obtain ⟨earlier, found, later, name, n, split, positive, located, onward⟩ :=
            ih further refused
          exact ⟨site :: earlier, found, later, name, n, congrArg (site :: ·) split, positive,
            located, onward.after result.1⟩
      | fails ofSchema =>
          rw [along_fails refusing] at refused
          cases refused
          exact absurd named (ofSchema naming)
      | overlap name n positive after =>
          -- here the runs part: what the other one takes from now on need not be what this one took
          rw [along_fails refusing] at refused
          cases refused
          refine ⟨[], site, rest, name, n, rfl, positive, rfl, ?_⟩
          rw [along_passes numbering]
          cases continued : along (config.onOverlap .number) root after rest with
          | error other =>
              obtain ⟨failing, behind, cause, ofSchema, rfl⟩ :=
                along_numbering_fails further continued
              exact .fails behind ofSchema
          | ok others => exact .ends (List.mem_append_left _ List.mem_cons_self)

end

end Compile

/-! ## Forests of both configurations -/

namespace Forest

open Compile (Cause Fault)

section

variable {config : Config} {root : String} {properties : Properties}

theorem ofProperties_unrefused
    (unrefused : ∀ fault, Forest.ofProperties (config.onOverlap .refuse) root properties =
      .error fault → fault.cause.OfSchema) :
    Forest.ofProperties (config.onOverlap .number) root properties =
      Forest.ofProperties (config.onOverlap .refuse) root properties := by
  obtain ⟨result, refusing⟩ : ∃ result, Compile.node (config.onOverlap .refuse) [root]
    (some (.mk {} config.fields)) none [] properties.top = result := ⟨_, rfl⟩
  have compiled : Forest.ofProperties (config.onOverlap .refuse) root properties =
      result.1.map Compile.Compiled.forest :=
    refusing ▸ Compile.ofProperties_eq _ root properties
  have step : result.Unrefused := by
    intro fault failed
    apply unrefused
    rw [compiled, failed]
    rfl
  have numbering := Compile.node_unrefused properties.top refusing step
  rw [compiled, ← numbering]
  exact Compile.ofProperties_eq _ root properties

theorem titles_below (config : Config) (root : String) (placed : properties.Placed []) :
    ∃ titles taken, ∀ overlap,
      (Forest.ofProperties (config.onOverlap overlap) root properties).map
          (·.types.map Definition.title) =
        ((Compile.along (config.onOverlap overlap) root taken
          (properties.walk [] none)).after titles).map Prod.fst := by
  obtain ⟨⟨titles, taken⟩, passes⟩ := Compile.top_passes config root properties
  refine ⟨titles, taken, fun overlap => ?_⟩
  rw [Forest.titles_along placed, ← Compile.along_passes (passes overlap)]
  rfl

theorem names_below (properties : Properties) :
    ∀ site ∈ properties.walk [] none, site.names ≠ [] := by
  intro site inside empty
  obtain ⟨name, -, above⟩ := Properties.names_prefix [] none properties site inside
  rw [empty, List.prefix_nil] at above
  cases above

/-- What numbering overlaps comes to once it has given a path a name with a number: it fails at a
    later site because of the schema, or it ends and the definition at the path has that name. -/
inductive Onward (path : List String) (name : String) (later : List Site) :
    Except Fault Forest → Prop where
  | fails {site : Site} {cause : Cause} (behind : site ∈ later) (ofSchema : cause.OfSchema) :
      Onward path name later (.error (.located site.names (.bare cause)))
  | ends {forest : Forest} {definition : Definition} (inside : definition ∈ forest.types)
      (place : definition.path = path) (named : definition.name = name)
      (only : ∀ other ∈ forest.types, other.path = path → other = definition) :
      Onward path name later (.ok forest)

theorem onward_of_titles {outcome : Compile.Outcome} {path : List String} {name : String}
    {later : List Site} (ordered : properties.Ordered)
    (titles : (Forest.ofProperties config root properties).map (·.types.map Definition.title) =
      outcome.map Prod.fst)
    (onward : Compile.Onward (path, name) later outcome) :
    Onward path name later (Forest.ofProperties config root properties) := by
  cases compiled : Forest.ofProperties config root properties with
  | error fault =>
      have failed := (Outcome.error_iff_of_map_eq titles).mp compiled
      subst failed
      cases onward with
      | fails behind ofSchema => exact .fails behind ofSchema
  | ok forest =>
      obtain ⟨result, done, same⟩ := Outcome.ok_of_map_eq titles compiled
      subst done
      cases onward with
      | ends given =>
          have titled : (path, name) ∈ forest.types.map Definition.title := by
            rw [same]
            exact given
          obtain ⟨definition, inside, title⟩ := List.mem_map.mp titled
          obtain ⟨place, named⟩ := Prod.ext_iff.mp title
          refine .ends inside place named fun other also there => ?_
          exact List.inj_on_of_nodup_map (paths_nodup ordered compiled) also inside
            (there.trans place.symm)

end

end Forest

/-- How refusing overlaps compares with numbering them: it only rejects. -/
structure OnlyRejects (root : String) (sites : List Site)
    (refusing numbering : Except Compile.Fault Forest) : Prop where
  /-- Numbering never fails because of a name. -/
  numbers : ∀ fault, numbering = .error fault → fault.cause.OfSchema
  /-- What refusing gives, numbering gives too. -/
  keeps : ∀ forest, refusing = .ok forest → numbering = .ok forest
  /-- Where refusing fails because of the schema, numbering fails in the same way. -/
  fails : ∀ fault, refusing = .error fault → fault.cause.OfSchema → numbering = .error fault
  /-- Where refusing fails because of a name, the name of a site overlaps. Numbering has put a
      number behind it and gone on. -/
  overlaps : ∀ fault naming, refusing = .error fault → fault.cause = .naming naming →
    ∃ earlier site later name n, sites = earlier ++ site :: later ∧ 0 < n ∧
      naming = .overlap name (root :: site.names) ∧
      fault = .located site.names (.bare (.naming naming)) ∧
      Forest.Onward (root :: site.names) (Naming.numbered name n) later numbering

/-- Of two configurations that differ in their answer to overlaps only, the one that refuses them
    rejects some of the mappings that the other compiles, and renames nothing. -/
theorem refusing_only_rejects {document : Json} {mapping : Mapping}
    (read : Mapping.ofJson document = .ok mapping) (config : Config) (root : String) :
    OnlyRejects root (mapping.properties.top.walk [] none)
      (Forest.ofProperties (config.onOverlap .refuse) root mapping.properties)
      (Forest.ofProperties (config.onOverlap .number) root mapping.properties) := by
  obtain ⟨ordered, placed⟩ := Mapping.ofJson_placed read
  obtain ⟨titles, taken, along⟩ := Forest.titles_below config root placed
  have below := Forest.names_below mapping.properties
  constructor
  case numbers =>
    intro fault failed
    have stopped := (Outcome.error_iff_of_map_eq (along .number)).mp failed
    obtain ⟨site, -, cause, ofSchema, rfl⟩ :=
      Compile.along_numbering_fails below (Compile.Outcome.after_eq_error.mp stopped)
    exact ofSchema
  case keeps =>
    intro forest compiled
    rw [Forest.ofProperties_unrefused, compiled]
    intro fault failed
    rw [compiled] at failed
    cases failed
  case fails =>
    intro fault failed ofSchema
    rw [Forest.ofProperties_unrefused, failed]
    intro other same
    rw [failed] at same
    cases same
    exact ofSchema
  case overlaps =>
    intro fault naming failed named
    have stopped := (Outcome.error_iff_of_map_eq (along .refuse)).mp failed
    obtain ⟨earlier, site, later, name, n, split, positive, located, onward⟩ :=
      Compile.along_overlaps below (Compile.Outcome.after_eq_error.mp stopped) named
    subst located
    cases named
    refine ⟨⟨[], mapping.properties.top, none⟩ :: earlier, site, later, name, n, ?_, positive, rfl,
      rfl, Forest.onward_of_titles ordered (along .number) (onward.after titles)⟩
    rw [List.cons_append, ← split]
    rfl

namespace Sample

/-- A field with nothing below it. -/
def blank : Json :=
  .obj [("properties", .obj [])]

/-- The last `x` finds the names of both others taken. -/
def crowdedDocument : Json :=
  .obj
    [("a", .obj [("properties", .obj [("x", blank)])]),
     ("b", .obj [("properties", .obj [("x", blank)])]),
     ("c", .obj [("properties", .obj [("b", .obj [("properties", .obj [("x", blank)])])])])]

def crowded : Properties :=
  [("a", .compound .object [] ["a"] none [("x", .compound .object [] ["a", "x"] none [])]),
   ("b", .compound .object [] ["b"] none [("x", .compound .object [] ["b", "x"] none [])]),
   ("c", .compound .object [] ["c"] none
     [("b", .compound .object [] ["c", "b"] none
       [("x", .compound .object [] ["c", "b", "x"] none [])])])]

theorem crowded_mapped : Mapping.ofJson crowdedDocument = .ok ⟨none, crowded⟩ := by
  with_unfolding_all rfl

theorem crowded_refused :
    Forest.ofProperties (config.onOverlap .refuse) "doc" crowded =
      .error (.located ["c", "b", "x"]
        (.bare (.naming (.overlap "BX" ["doc", "c", "b", "x"])))) := by
  with_unfolding_all rfl

end Sample

theorem sample_refusing_only_rejects :
    Forest.ofProperties (Sample.config.onOverlap .refuse) "doc" Sample.crowded =
        .error (.located ["c", "b", "x"]
          (.bare (.naming (.overlap "BX" ["doc", "c", "b", "x"])))) ∧
      OnlyRejects "doc" (Sample.crowded.top.walk [] none)
        (Forest.ofProperties (Sample.config.onOverlap .refuse) "doc" Sample.crowded)
        (Forest.ofProperties (Sample.config.onOverlap .number) "doc" Sample.crowded) :=
  ⟨Sample.crowded_refused, refusing_only_rejects Sample.crowded_mapped Sample.config "doc"⟩

end StoreSchema
