import StoreSchema.Proofs.Date.Reproducing
import StoreSchema.Proofs.Types.Definitions
import StoreSchema.Proofs.Types.Leaves

/-! # Date types of a forest

A generated date type knows the format that it has by the text that the format was compiled from,
the format that was preferred, and whether it prefers numbers. That is enough to compile the format
again.
-/

namespace StoreSchema

/-- What a date type states of its format gives the format. -/
def DateSpec.Reproduces (spec : DateSpec) : Prop :=
  DateFormat.compile spec.source spec.preferred spec.format.prefersEpoch = .ok spec.format

/-- The formats of all date types can be compiled again. -/
def DatesReproduce (types : List Definition) : Prop :=
  ∀ definition ∈ types, ∀ spec, definition.body = .date spec → spec.Reproduces

namespace Compile

theorem planDate_reproduces {path : FieldPath} {params : List (String × Json)} {policy : Policy}
    {nanos : Bool} {type : LeafType} {spec : DateSpec}
    (planned : planDate path params policy nanos = .ok (.generated type))
    (body : type.body = .date spec) : spec.Reproduces := by
  obtain ⟨declared, -, rest⟩ := Outcome.bind_eq_ok.mp planned
  split at rest
  next => cases rest
  next =>
    dsimp only at rest
    split at rest
    next => cases rest
    next format compiled =>
      cases rest
      cases body
      exact DateFormat.compile_again compiled

theorem planLeaf_reproduces {kind : Kind} {path : FieldPath} {params : List (String × Json)}
    {policy : Policy} {type : LeafType} {spec : DateSpec}
    (planned : planLeaf kind path params policy = .ok (.generated type))
    (body : type.body = .date spec) : spec.Reproduces := by
  have owned := (planLeaf_fits planned).2
  rw [body] at owned
  cases owned with
  | date | dateNanos => exact planDate_reproduces planned body

end Compile

theorem Forest.datesReproduce {config : Config} {root : String} {properties : Properties}
    {forest : Forest} (compiled : Forest.ofProperties config root properties = .ok forest) :
    DatesReproduce forest.types := by
  intro definition inside spec body
  cases Forest.origin compiled definition inside with
  | record | openMap => cases body
  | leaf name path planned => exact Compile.planLeaf_reproduces planned body

/-- A format that was compiled is well formed, and compiled again from its source, preferring
    numbers if it does, it is the same format. So the date types of a forest can compile the formats
    that they stand for. -/
theorem compiled_formats_reproduce :
    (∀ {source : String} {preferred : Option String} {preferEpoch : Bool} {format : DateFormat},
      DateFormat.compile source preferred preferEpoch = .ok format →
        format.WellFormed ∧ format.source = source ∧
          DateFormat.compile format.source preferred format.prefersEpoch = .ok format) ∧
    ∀ {config : Config} {root : String} {properties : Properties} {forest : Forest},
      Forest.ofProperties config root properties = .ok forest → DatesReproduce forest.types := by
  refine ⟨?_, Forest.datesReproduce⟩
  intro source preferred preferEpoch format compiled
  have same := DateFormat.compile_source compiled
  exact ⟨DateFormat.compile_wellFormed compiled, same,
    same.symm ▸ DateFormat.compile_again compiled⟩

namespace Sample

/-- Dates are numbers wherever their format has a unit, and otherwise have slashes. -/
def counting : Config :=
  { global := { layer := { preferredDateFormat := "yyyy/MM/dd", preferEpoch := .on } } }

def births : Properties :=
  [("birth", .leaf .date [("format", .str "yyyy-MM-dd||yyyy/MM/dd||epoch_second")] ["birth"])]

/-- The format of births, which are numbers although texts have a layout. -/
def counted : DateFormat :=
  { slashes with prefersEpoch := true }

theorem counted_compiled :
    DateFormat.compile "yyyy-MM-dd||yyyy/MM/dd||epoch_second" (some "yyyy/MM/dd") true =
      .ok counted :=
  Outcome.toOption_eq_some.mp (by decide +kernel)

def birth : Definition :=
  { name := "Birth", wireName := "Birth", path := ["people", "birth"], kind := .date
    body := .date ⟨counted.source, some "yyyy/MM/dd", false, counted⟩
    dependencies := Keyed.sorted [Target.leafScope, Compile.formatScope] }

def countedForest : Forest :=
  ⟨"People",
    [{ name := "People", wireName := "PeopleRaw", path := ["people"], kind := .object
       body := .record
         [⟨"birth", "birth", .date,
            { preferredDateFormat := some "yyyy/MM/dd", preferEpoch := true },
            .leaf "Birth" (.int 0), .optionalList, .array⟩]
       dependencies := [Compile.fieldScope, Compile.recordScope] },
     birth]⟩

theorem birth_planned :
    Compile.planLeaf .date ["birth"]
        [("format", .str "yyyy-MM-dd||yyyy/MM/dd||epoch_second")]
        (counting.global.resolve .date none) =
      .ok (.generated ⟨birth.body, birth.dependencies, .int 0⟩) := by
  have policy : counting.global.resolve .date none =
      { preferredDateFormat := some "yyyy/MM/dd", preferEpoch := true } := rfl
  have declared : Compile.declaredFormat ["birth"]
      [("format", .str "yyyy-MM-dd||yyyy/MM/dd||epoch_second")] =
        .ok (some "yyyy-MM-dd||yyyy/MM/dd||epoch_second") := rfl
  have zero : counted.toJson Moment.epoch = .ok (.int 0) := rfl
  simp only [policy, Compile.planLeaf, Kind.target, Compile.planDate, declared, Outcome.ok_bind,
    Option.getD_some, counted_compiled, zero]
  rfl

theorem countedForest_compiled :
    Forest.ofProperties counting "people" births = .ok countedForest := by
  have override : List.lookup "birth" (((some (FieldPolicy.mk {} counting.fields)).map
      FieldPolicy.children).getD []) = none := rfl
  simp only [Forest.ofProperties, births, Compile.node, Compile.children, override, Compile.leaf,
    birth_planned]
  with_unfolding_all rfl

end Sample

theorem sample_compiled_formats_reproduce :
    (Sample.counted.WellFormed ∧ DateFormat.compile Sample.counted.source (some "yyyy/MM/dd")
      Sample.counted.prefersEpoch = .ok Sample.counted) ∧
    Forest.ofProperties Sample.counting "people" Sample.births = .ok Sample.countedForest ∧
      DatesReproduce Sample.countedForest.types := by
  obtain ⟨wellFormed, -, again⟩ := compiled_formats_reproduce.1 Sample.counted_compiled
  exact ⟨⟨wellFormed, again⟩, Sample.countedForest_compiled,
    compiled_formats_reproduce.2 Sample.countedForest_compiled⟩

end StoreSchema
