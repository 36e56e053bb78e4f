import StoreSchema.Proofs.Types.Walking

/-! # Faults point at the first failing field

A compilation that fails stops at the first site of the walk whose own step fails. Its fault carries
the path of that site once, around a cause that the step gives, and the cause is never that a field
lacks a body.
-/

namespace StoreSchema

namespace Compile

/-! ## Causes -/

/-- What planning a leaf at a path can fail with: its format or its metrics. -/
inductive PlanCause (path : FieldPath) : Cause → Prop where
  | formatNotString (value : Json) :
      PlanCause path (.schema (.malformed path (.formatNotString value)))
  | format (fault : DateFormat.Fault) : PlanCause path (.format fault)
  | metricsNotArray : PlanCause path (.schema (.malformed path .metricsNotArray))
  | unknownMetric (name : String) : PlanCause path (.schema (.unknownMetric name path))

/-- What the own step of a field at a path can fail with: its plan or its name. -/
inductive OwnCause (path : FieldPath) : Cause → Prop where
  | plan {cause : Cause} (planned : PlanCause path cause) : OwnCause path cause
  | naming (fault : Naming.Error) : OwnCause path (.naming fault)

section

variable {path : FieldPath} {params : List (String × Json)} {policy : Policy} {cause : Cause}

theorem OwnCause.bodied (own : OwnCause path cause) (other : FieldPath) (kind : Kind) :
    cause ≠ .schema (.malformed other (.compoundWithoutBody kind)) := by
  cases own with
  | plan planned => cases planned <;> simp
  | naming fault => simp

theorem declaredFormat_error (fails : declaredFormat path params = .error cause) :
    PlanCause path cause := by
  unfold declaredFormat at fails
  split at fails
  next => cases fails
  next => cases fails
  next => cases fails
  next value _ _ _ =>
    cases fails
    exact .formatNotString value

theorem planDate_error {nanos : Bool} (fails : planDate path params policy nanos = .error cause) :
    PlanCause path cause := by
  rcases Outcome.bind_eq_error.mp fails with undeclared | ⟨declared, -, rest⟩
  · exact declaredFormat_error undeclared
  · split at rest
    next => cases rest
    next =>
      dsimp only at rest
      split at rest
      next fault _ =>
        cases rest
        exact .format fault
      next => cases rest

theorem metricOf_error {value : Json} (fails : metricOf path value = .error cause) :
    PlanCause path cause := by
  unfold metricOf at fails
  split at fails
  next name =>
    split at fails
    next => cases fails
    next =>
      cases fails
      exact .unknownMetric name
  next =>
    cases fails
    exact .unknownMetric _

theorem planAggregate_error (fails : planAggregate path params = .error cause) :
    PlanCause path cause := by
  unfold planAggregate at fails
  split at fails
  next names _ =>
    rcases Outcome.bind_eq_error.mp fails with unread | ⟨metrics, -, done⟩
    · obtain ⟨name, -, unknown⟩ := Outcome.mapM_eq_error unread
      exact metricOf_error unknown
    · cases done
  next =>
    cases fails
    exact .metricsNotArray

theorem isCompound_of_target {kind : Kind} (target : kind.target = .compound) :
    kind.isCompound := by
  cases kind <;> cases target <;> rfl

theorem planLeaf_error {kind : Kind} (plain : kind.isCompound = false)
    (fails : planLeaf kind path params policy = .error cause) : PlanCause path cause := by
  unfold planLeaf at fails
  split at fails
  next => cases fails
  next => cases fails
  next => exact planDate_error fails
  next => exact planAggregate_error fails
  next target => simp [isCompound_of_target target] at plain

end

/-! ## The first failing site -/

theorem takeTitle_error {config : Config} {root : String} {site : Site} {taken : Naming.Registry}
    {cause : Cause} (fails : site.takeTitle config root taken = .error cause) :
    ∃ fault, taken.generate config.naming (root :: site.names) = .error fault ∧
      cause = .naming fault := by
  unfold Site.takeTitle at fails
  split at fails
  next => cases fails
  next fault refused =>
    cases fails
    exact ⟨fault, refused, rfl⟩

theorem step_error {config : Config} {root : String} {site : Site} {taken : Naming.Registry}
    {cause : Cause} (stored : site.node.path = site.names) (kinded : site.node.Kinded)
    (fails : site.step config root taken = .error cause) : OwnCause site.names cause := by
  have unnamed : site.takeTitle config root taken = .error cause → OwnCause site.names cause := by
    intro fails
    obtain ⟨fault, -, rfl⟩ := takeTitle_error fails
    exact .naming fault
  obtain ⟨names, node, treatment⟩ := site
  cases node with
  | compound => exact unnamed fails
  | leaf kind params path =>
      rw [Node.Kinded] at kinded
      unfold Site.step at fails
      dsimp only at fails
      split at fails
      next other refused =>
        cases fails
        exact .plan (stored ▸ planLeaf_error kinded refused)
      next => cases fails
      next => exact unnamed fails

/-- The first of some sites whose own step fails, with the cause: the steps of the sites before it
    pass, each with the names that are taken by then. -/
inductive FirstFault (config : Config) (root : String) :
    Naming.Registry → List Site → Site → Cause → Prop where
  | here {taken : Naming.Registry} {site : Site} {rest : List Site} {cause : Cause}
      (fails : site.step config root taken = .error cause) :
      FirstFault config root taken (site :: rest) site cause
  | later {taken middle : Naming.Registry} {site failing : Site} {rest : List Site}
      {titles : List Title} {cause : Cause}
      (passes : site.step config root taken = .ok (titles, middle))
      (next : FirstFault config root middle rest failing cause) :
      FirstFault config root taken (site :: rest) failing cause

section

variable {config : Config} {root : String} {taken : Naming.Registry} {sites : List Site}

theorem FirstFault.mem {site : Site} {cause : Cause}
    (first : FirstFault config root taken sites site cause) : site ∈ sites := by
  induction first with
  | here => exact List.mem_cons_self
  | later _ _ ih => exact List.mem_cons_of_mem _ ih

theorem FirstFault.fails {site : Site} {cause : Cause}
    (first : FirstFault config root taken sites site cause) :
    ∃ before, site.step config root before = .error cause := by
  induction first with
  | here fails => exact ⟨_, fails⟩
  | later _ _ ih => exact ih

theorem along_eq_error {fault : Fault} (fails : along config root taken sites = .error fault) :
    ∃ site cause, FirstFault config root taken sites site cause ∧
      fault = .located site.names (.bare cause) := by
  induction sites generalizing taken with
  | nil => cases fails
  | cons site rest ih =>
      cases stepped : site.step config root taken with
      | error cause =>
          rw [along_fails stepped] at fails
          cases fails
          exact ⟨site, cause, .here stepped, rfl⟩
      | ok result =>
          rw [along_passes stepped, Outcome.after_eq_error] at fails
          obtain ⟨failing, cause, first, located⟩ := ih fails
          exact ⟨failing, cause, .later stepped first, located⟩

end

/-- A fault points at a site: it carries the path of the field once, around a cause that the own
    step of the field gives and that is not the lack of a body. -/
structure Fault.PointsAt (fault : Fault) (site : Site) (cause : Cause) : Prop where
  located : fault = .located site.names (.bare cause)
  stored : site.node.path = site.names
  message : fault.message = "at `" ++ FieldPath.dotted site.names ++ "`: " ++ cause.message
  own : OwnCause site.names cause
  bodied : ∀ path kind, cause ≠ .schema (.malformed path (.compoundWithoutBody kind))

end Compile

/-- The compilation of a mapping that was read fails at the first field, in the order of the walk,
    whose own step fails. -/
theorem fault_points_at_first {document : Json} {mapping : Mapping} {config : Config}
    {root : Option String} {fault : Compile.Fault} (read : Mapping.ofJson document = .ok mapping)
    (failed : Forest.ofMapping config root mapping = .error fault) :
    mapping.properties.Ordered ∧
      ∃ site cause, fault.PointsAt site cause ∧
        Compile.FirstFault config ((root.or mapping.indexName).getD "Root") []
          (mapping.properties.top.walk [] none) site cause := by
  obtain ⟨ordered, placed⟩ := Mapping.ofJson_placed read
  have topPlaced : mapping.properties.top.Placed [] := ⟨rfl, placed⟩
  have topKinded : mapping.properties.top.Kinded := ⟨rfl, Mapping.ofJson_kinded read⟩
  have along := (Outcome.error_iff_of_map_eq (Forest.titles_along placed)).mp failed
  obtain ⟨site, cause, first, located⟩ := Compile.along_eq_error along
  have stored := Node.path_of_walk topPlaced site first.mem
  have siteKinded := Node.kinded_of_walk topKinded site first.mem
  obtain ⟨before, fails⟩ := first.fails
  have own := Compile.step_error stored siteKinded fails
  exact ⟨ordered, site, cause,
    { located, stored, own, message := by rw [located]; rfl, bodied := own.bodied }, first⟩

namespace Sample

/-- Two fields are at fault here: a date with a number for its format, and before it, in the order
    of the names, a load with a metric that does not exist. -/
def faultyDocument : Json :=
  .obj
    [("time", .obj [("type", .str "date"), ("format", .int 5)]),
     ("manager", .obj [("properties", .obj
       [("load", .obj
          [("type", .str "aggregate_metric_double"), ("metrics", .arr [.str "max", .str "mean"])]),
        ("age", .obj [("type", .str "integer")])])])]

def faultyProperties : Properties :=
  [("manager", .compound .object [] ["manager"] none
     [("age", .leaf .integer [] ["manager", "age"]),
      ("load", .leaf .aggregateMetricDouble [("metrics", .arr [.str "max", .str "mean"])]
        ["manager", "load"])]),
   ("time", .leaf .date [("format", .int 5)] ["time"])]

theorem faulty_mapped : Mapping.ofJson faultyDocument = .ok ⟨none, faultyProperties⟩ := by
  with_unfolding_all rfl

theorem faulty_failed : Forest.ofMapping config none ⟨none, faultyProperties⟩ =
    .error (.located ["manager", "load"]
      (.bare (.schema (.unknownMetric "mean" ["manager", "load"])))) := by
  with_unfolding_all rfl

end Sample

theorem sample_fault_points_at_first :
    Properties.Ordered Sample.faultyProperties ∧
      ∃ site cause, Compile.Fault.PointsAt (.located ["manager", "load"]
          (.bare (.schema (.unknownMetric "mean" ["manager", "load"])))) site cause ∧
        Compile.FirstFault Sample.config "Root" [] (Sample.faultyProperties.top.walk [] none)
          site cause :=
  fault_points_at_first Sample.faulty_mapped Sample.faulty_failed

end StoreSchema
