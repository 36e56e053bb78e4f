import StoreSchema.Proofs.Outcome
import StoreSchema.Types.Compile

/-! # Which leaves own a type

The plan of a leaf asks for a generated type exactly where the leaf is a date that declares a format
or has a preference for one, or a field of aggregates.
-/

namespace StoreSchema.Compile

/-- Whether the parameters of a field declare a format. -/
def declaresFormat (params : List (String × Json)) : Bool :=
  match params.lookup "format" with
  | some (.str _) => true
  | _ => false

/-- Whether a leaf has a type of its own. -/
def leafOwnsType (kind : Kind) (params : List (String × Json)) (policy : Policy) : Bool :=
  match kind with
  | .date | .dateNanos =>
    declaresFormat params || policy.preferredDateFormat.isSome || policy.preferEpoch
  | .aggregateMetricDouble => true
  | _ => false

/-- The body of the type that a leaf of a kind owns. -/
inductive LeafBody : Kind → Body → Prop where
  | date (spec : DateSpec) (millis : spec.nanos = false) : LeafBody .date (.date spec)
  | dateNanos (spec : DateSpec) (nanos : spec.nanos = true) : LeafBody .dateNanos (.date spec)
  | aggregate (metrics : List Metric) : LeafBody .aggregateMetricDouble (.aggregate metrics)

theorem LeafBody.not_pair {kind : Kind} {definition : Definition}
    (leaf : LeafBody kind definition.body) : definition.isPair = false := by
  unfold Definition.isPair
  generalize definition.body = body at leaf
  cases leaf <;> rfl

theorem LeafBody.no_members {kind : Kind} {definition : Definition}
    (leaf : LeafBody kind definition.body) : definition.members = [] := by
  unfold Definition.members
  generalize definition.body = body at leaf
  cases leaf <;> rfl

/-- What a plan is for a leaf that owns a type, and for one that does not. -/
def LeafPlan.Fits (kind : Kind) (params : List (String × Json)) (policy : Policy) :
    LeafPlan → Prop
  | .existing _ _ => leafOwnsType kind params policy = false
  | .generated type => leafOwnsType kind params policy = true ∧ LeafBody kind type.body

theorem kind_of_target_date {kind : Kind} {nanos : Bool} (target : kind.target = .date nanos) :
    (kind = .date ∧ nanos = false) ∨ (kind = .dateNanos ∧ nanos = true) := by
  cases kind <;> cases target <;> simp

theorem kind_of_target_aggregate {kind : Kind} (target : kind.target = .aggregate) :
    kind = .aggregateMetricDouble := by
  cases kind <;> cases target
  rfl

theorem not_owner_of_target_scalar {kind : Kind} {scalar : Scalar}
    (target : kind.target = .scalar scalar) (params : List (String × Json)) (policy : Policy) :
    leafOwnsType kind params policy = false := by
  cases kind <;> first | rfl | cases target

theorem not_owner_of_target_boolean {kind : Kind} (target : kind.target = .boolean)
    (params : List (String × Json)) (policy : Policy) :
    leafOwnsType kind params policy = false := by
  cases kind <;> first | rfl | cases target

theorem declaredFormat_ok {path : FieldPath} {params : List (String × Json)}
    {declared : Option String} (read : declaredFormat path params = .ok declared) :
    declared.isSome = declaresFormat params := by
  unfold declaredFormat at read
  unfold declaresFormat
  split at read
  next found => cases read; simp [found]
  next found => cases read; simp [found]
  next format found => cases read; simp [found]
  next => cases read

theorem planDate_fits {path : FieldPath} {params : List (String × Json)} {policy : Policy}
    {nanos : Bool} {plan : LeafPlan} {kind : Kind} (planned : planDate path params policy nanos = .ok plan)
    (target : kind.target = .date nanos) : plan.Fits kind params policy := by
  obtain ⟨declared, read, rest⟩ := Outcome.bind_eq_ok.mp planned
  have owns : leafOwnsType kind params policy =
      (declared.isSome || policy.preferredDateFormat.isSome || policy.preferEpoch) := by
    rw [declaredFormat_ok read]
    rcases kind_of_target_date target with ⟨rfl, -⟩ | ⟨rfl, -⟩ <;> rfl
  split at rest
  next bare =>
    cases rest
    simp only [Bool.and_eq_true, Option.isNone_iff_eq_none, Bool.not_eq_true'] at bare
    simp only [LeafPlan.Fits, owns, bare, Option.isSome_none, Bool.or_self]
  next stated =>
    dsimp only at rest
    split at rest
    next => cases rest
    next format compiled =>
      cases rest
      constructor
      · rw [owns]
        revert stated
        rw [← Option.not_isSome, ← Option.not_isSome]
        cases declared.isSome <;> cases policy.preferredDateFormat.isSome <;>
          cases policy.preferEpoch <;> simp
      · rcases kind_of_target_date target with ⟨rfl, rfl⟩ | ⟨rfl, rfl⟩
        · exact .date _ rfl
        · exact .dateNanos _ rfl

theorem planAggregate_fits {path : FieldPath} {params : List (String × Json)} {plan : LeafPlan}
    {kind : Kind} (planned : planAggregate path params = .ok plan)
    (target : kind.target = .aggregate) (policy : Policy) : plan.Fits kind params policy := by
  cases kind_of_target_aggregate target
  unfold planAggregate at planned
  split at planned
  next names found =>
    obtain ⟨metrics, read, rest⟩ := Outcome.bind_eq_ok.mp planned
    cases rest
    exact ⟨rfl, .aggregate _⟩
  next => cases planned

/-- A plan that succeeds asks for a generated type just where the leaf owns one. -/
theorem planLeaf_fits {kind : Kind} {path : FieldPath} {params : List (String × Json)}
    {policy : Policy} {plan : LeafPlan} (planned : planLeaf kind path params policy = .ok plan) :
    plan.Fits kind params policy := by
  unfold planLeaf at planned
  split at planned
  next scalar target =>
    cases planned
    exact not_owner_of_target_scalar target params policy
  next target =>
    cases planned
    exact not_owner_of_target_boolean target params policy
  next nanos target => exact planDate_fits planned target
  next target => exact planAggregate_fits planned target policy
  next => cases planned

end StoreSchema.Compile
