import StoreSchema.Proofs.Types.Forests

/-! # Preferences of members

Every member of a forest has the preferences that the layers of its own field rank: the layer that
overrides lead to along its names, the layer of its kind, and the general one. Each preference comes
from the first of them that states it.
-/

namespace StoreSchema

/-! ## Ranks -/

/-- The layout that a layer states for dates. -/
def Layer.dateFormat? (layer : Layer) : Option String :=
  if layer.preferredDateFormat = "" then none else some layer.preferredDateFormat

namespace Policy

/-- Each preference is what the first of some layers says that states it; without one, flags are
    off and no format is preferred. -/
structure Ranks (policy : Policy) (layers : List Layer) : Prop where
  required : policy.required = (layers.findSome? (·.required.value?)).getD false
  single : policy.single = (layers.findSome? (·.single.value?)).getD false
  preferStringBoolean :
    policy.preferStringBoolean = (layers.findSome? (·.preferStringBoolean.value?)).getD false
  preferredDateFormat : policy.preferredDateFormat = layers.findSome? Layer.dateFormat?
  preferEpoch : policy.preferEpoch = (layers.findSome? (·.preferEpoch.value?)).getD false

/-- The layers that are there, from the most specific one on. -/
def ranked (general : Layer) (kind field : Option Layer) : List Layer :=
  field.toList ++ kind.toList ++ [general]

variable (general : Layer) (kind field : Option Layer)

theorem findSome?_ranked {α : Type} {states : Layer → Option α} (silent : states {} = none) :
    (ranked general kind field).findSome? states =
      ((states (field.getD {})).or (states (kind.getD {}))).or (states general) := by
  have stated : ∀ layer : Option Layer,
      layer.toList.findSome? states = states (layer.getD {}) := by
    intro layer
    cases layer with
    | none => simp [silent]
    | some layer => cases said : states layer <;> simp [said]
  rw [ranked, List.findSome?_append, List.findSome?_append, stated field, stated kind,
    ← Option.toList_some, stated (some general), Option.getD_some]

theorem decideFlag_ranked {flag : Layer → Flag} (silent : flag {} = .unset) :
    decideFlag (flag general) (flag (kind.getD {})) (flag (field.getD {})) =
      ((ranked general kind field).findSome? fun layer => (flag layer).value?).getD false := by
  rw [findSome?_ranked general kind field (by rw [silent]; rfl)]
  cases flag (field.getD {}) <;> cases flag (kind.getD {}) <;> cases flag general <;> rfl

theorem firstText_ranked :
    firstText [(field.getD {}).preferredDateFormat, (kind.getD {}).preferredDateFormat,
        general.preferredDateFormat] =
      (ranked general kind field).findSome? Layer.dateFormat? := by
  rw [findSome?_ranked general kind field rfl, firstText]
  simp only [List.find?_cons, List.find?_nil, Layer.dateFormat?]
  by_cases byField : (field.getD {}).preferredDateFormat = "" <;>
    by_cases byKind : (kind.getD {}).preferredDateFormat = "" <;>
      by_cases overall : general.preferredDateFormat = "" <;>
        simp [byField, byKind, overall]

theorem overlay_ranks : (overlay general kind field).Ranks (ranked general kind field) where
  required := decideFlag_ranked general kind field rfl
  single := decideFlag_ranked general kind field rfl
  preferStringBoolean := decideFlag_ranked general kind field rfl
  preferredDateFormat := firstText_ranked general kind field
  preferEpoch := decideFlag_ranked general kind field rfl

end Policy

namespace Config

/-- The layers that concern a field of a kind to which names lead from the top, from the most
    specific one on: the one that the overrides of the fields hold along these names, if they go
    that far, the one of the kind, and the general one. -/
def layersAt (config : Config) (names : FieldPath) (kind : Kind) : List Layer :=
  Policy.ranked config.global.layer (config.global.byKind.lookup kind)
    ((config.overrideAt names).map FieldPolicy.layer)

theorem policyAt_ranks (config : Config) (names : FieldPath) (kind : Kind) :
    (config.policyAt names kind).Ranks (config.layersAt names kind) :=
  Policy.overlay_ranks _ _ _

end Config

/-! ## Members -/

/-- What a member has by its preferences: the form is that of a required or optional member, of
    one or of many elements, and one element is written alone where members are single. -/
structure Member.Shaped (member : Member) : Prop where
  required : member.form.isRequired = member.policy.required
  single : member.form.isSingle = member.policy.single
  cardinality : member.cardinality = .single ↔ member.policy.single

theorem Form.isRequired_ofPolicy (policy : Policy) :
    (Form.ofPolicy policy).isRequired = policy.required := by
  obtain ⟨required, single, _, _, _⟩ := policy
  cases required <;> cases single <;> rfl

theorem Form.isSingle_ofPolicy (policy : Policy) :
    (Form.ofPolicy policy).isSingle = policy.single := by
  obtain ⟨required, single, _, _, _⟩ := policy
  cases required <;> cases single <;> rfl

theorem Cardinality.ofPolicy_eq_single {policy : Policy} :
    Cardinality.ofPolicy policy = .single ↔ policy.single := by
  cases single : policy.single <;> simp [Cardinality.ofPolicy, single]

theorem Member.shaped {member : Member} (form : member.form = .ofPolicy member.policy)
    (cardinality : member.cardinality = .ofPolicy member.policy) : member.Shaped where
  required := by rw [form, Form.isRequired_ofPolicy]
  single := by rw [form, Form.isSingle_ofPolicy]
  cardinality := by rw [cardinality, Cardinality.ofPolicy_eq_single]

theorem Forest.member_policy_shaped {config : Config} {root : String} {properties : Properties}
    {forest : Forest} (compiled : Forest.ofProperties config root properties = .ok forest)
    {definition : Definition} (inside : definition ∈ forest.types) :
    ∃ names, definition.path = root :: names ∧ ∀ member ∈ definition.members,
      member.policy = config.policyAt (names ++ [member.name]) member.kind ∧
        member.Shaped := by
  obtain ⟨site, -, describes⟩ := Lists.exists_left (Forest.walked compiled) inside
  refine ⟨site.names, describes.path, ?_⟩
  intro member declared
  have body := describes.body
  unfold Definition.members at declared
  generalize definition.body = what at body declared
  cases body with
  | openMap => simp at declared
  | leaf owned => cases owned <;> simp at declared
  | record closed fields =>
      obtain ⟨field, -, standsFor⟩ := Lists.exists_left fields declared
      refine ⟨?_, Member.shaped standsFor.form standsFor.cardinality⟩
      rw [standsFor.policy, standsFor.name, standsFor.kind]

/-- Options reach the members of a forest: each member has the preferences that the layers at its
    names rank, and the shape that these ask for. -/
theorem preferences_reach_members {config : Config} {root : String} {properties : Properties}
    {forest : Forest} (compiled : Forest.ofProperties config root properties = .ok forest) :
    ∀ definition ∈ forest.types, ∃ names, definition.path = root :: names ∧
      ∀ member ∈ definition.members,
        member.policy.Ranks (config.layersAt (names ++ [member.name]) member.kind) ∧
        member.Shaped := by
  intro definition inside
  obtain ⟨names, path, members⟩ := Forest.member_policy_shaped compiled inside
  refine ⟨names, path, fun member declared => ?_⟩
  obtain ⟨policy, shaped⟩ := members member declared
  refine ⟨?_, shaped⟩
  rw [policy]
  exact config.policyAt_ranks (names ++ [member.name]) member.kind

namespace Sample

/-- Everything is single, integers are required lists, but the age of a manager is single and
    managers are many. -/
def layered : Config :=
  { global :=
      { layer := { single := .on }, byKind := [(.integer, { required := .on, single := .off })] }
    fields := [("manager", .mk { single := .off } [("age", .mk { single := .on } [])])] }

def layeredForest : Forest :=
  ⟨"Doc",
    [{ doc with
       body := .record
         [⟨"load", "load", .aggregateMetricDouble, { single := true }, .leaf "Load" (.obj []),
            .optionalValue, .single⟩,
          ⟨"manager", "manager", .object, {}, .compound "Manager" "ManagerRaw",
            .optionalList, .array⟩] },
     load,
     { manager with
       body := .record
         [⟨"age", "age", .integer, { required := true, single := true }, .scalar "i32" (.int 0),
            .value, .single⟩,
          ⟨"extra", "extra", .object, { single := true }, .compound "Extra" "ExtraRaw",
            .optionalValue, .single⟩] },
     extra]⟩

theorem layered_compiled : Forest.ofProperties layered "doc" properties = .ok layeredForest := by
  with_unfolding_all rfl

end Sample

theorem sample_preferences_reach_members :
    Forest.ofProperties Sample.layered "doc" Sample.properties = .ok Sample.layeredForest ∧
      ∀ definition ∈ Sample.layeredForest.types, ∃ names, definition.path = "doc" :: names ∧
        ∀ member ∈ definition.members,
          member.policy.Ranks (Sample.layered.layersAt (names ++ [member.name]) member.kind) ∧
          member.Shaped :=
  ⟨Sample.layered_compiled, preferences_reach_members Sample.layered_compiled⟩

end StoreSchema
