import StoreSchema.Config
import StoreSchema.Proofs.Naming.Strategies
import StoreSchema.Proofs.Policy.Overrides
import StoreSchema.Proofs.Schema.Descriptors

/-! # Saved configurations

A configuration is read back from what it is saved as, but for its flags: in the names that flags are
saved under none is read, so every saved configuration is refused.
-/

namespace StoreSchema

open Decoding (Delivery)

variable {spell : Flag → Json}

instance : Std.Asymm (α := Kind) (· < ·) :=
  ⟨fun _ _ less => Nat.lt_asymm less⟩

namespace GlobalPolicy

/-- The table of the layers by kind as it is saved, with their flags in a spelling. -/
def tableWith (spell : Flag → Json) (byKind : List (Kind × Layer)) : List (String × Json) :=
  byKind.map fun (kind, layer) => (kind.name, layer.toJsonWith spell)

/-- The preferences for everything as they are saved, with their flags in a spelling. -/
def toJsonWith (spell : Flag → Json) (policy : GlobalPolicy) : Json :=
  .obj (policy.layer.toMembersWith spell ++ [("type_option", .obj (tableWith spell policy.byKind))])

theorem toJson_eq (policy : GlobalPolicy) : policy.toJson = policy.toJsonWith Flag.saved := rfl

theorem readKind_name (kind : Kind) : readKind kind.name = .ok kind := by
  rw [readKind, Kind.ofName?_eq_some.mpr rfl]

theorem readByKind_written (readable : Flag.Readable spell) (delivery : Delivery)
    {byKind : List (Kind × Layer)} (ascending : (byKind.map Prod.fst).Pairwise (· < ·)) :
    readByKind delivery (.ofJson (.obj (tableWith spell byKind))) = .ok byKind := by
  have inOrder : byKind.foldl (fun table (kind, layer) => Keyed.insert kind layer table) [] =
      byKind :=
    Keyed.foldl_insert ascending
  rw [tableWith, Document.ofJson, readByKind,
    Decoding.entriesWith_written Kind.name (Layer.toJsonWith spell) []
      (fun entry _ => readKind_name entry.1)
      (fun entry _ => Layer.read_written readable delivery entry.2), inOrder]
  rfl

theorem readByKind_saved (delivery : Delivery) (kind : Kind) (layer : Layer)
    (rest : List (Kind × Layer)) :
    readByKind delivery (.ofJson (.obj (tableWith Flag.saved ((kind, layer) :: rest)))) =
      .error ⟨[.unnamed, .key "required"], layer.required.refusal⟩ := by
  rw [tableWith, List.map_cons, Document.ofJson, Document.ofMembers, readByKind,
    Decoding.entriesWith, readKind_name, Layer.read_saved]
  rfl

/-- The field of the layers by kind, next to the members that are put aside. -/
def byKindField (delivery : Delivery) :
    Decoding.Field (List (Kind × Layer) × List (String × Json)) :=
  Decoding.field "type_option" (readByKind delivery) fun layers read => (layers, read.2)

/-- The preferences for everything are read in two steps: first the layers by kind, then the general
    layer. It is written first, but it is read only from what is left over at the end. -/
theorem read_inTurn (plain : Flag.Plain spell) (delivery : Delivery) (policy : GlobalPolicy) :
    read delivery (.ofJson (policy.toJsonWith spell)) = (do
      let byKind ← Decoding.within (.key "type_option")
        (readByKind delivery (.ofJson (.obj (tableWith spell policy.byKind))))
      let layer ← Layer.readShared (policy.layer.toMembersWith spell)
      pure ⟨layer, byKind⟩) := by
  have other : "type_option" ∉ Layer.fields.map (·.name) := by decide
  have foreign : ∀ entry ∈ policy.layer.toMembersWith spell, ∀ field ∈ [byKindField delivery],
      field.name ≠ entry.1 := by
    intro entry inside field same
    rw [List.mem_singleton.mp same]
    exact policy.layer.notMem_toMembersWith other entry inside
  have aside := Decoding.membersWith_putAside [] [] []
    (Document.ofMembers [("type_option", .obj (tableWith spell policy.byKind))]) foreign
    (policy.layer.anyValue_toMembersWith plain)
  rw [← Document.ofMembers_append, List.nil_append] at aside
  calc
    read delivery (.ofJson (policy.toJsonWith spell)) = (do
        let read ← Decoding.membersWith [byKindField delivery] Decoding.putAside [] ([], [])
          (Document.ofMembers (policy.layer.toMembersWith spell ++
            [("type_option", .obj (tableWith spell policy.byKind))]))
        let layer ← Layer.readShared read.2
        pure ⟨layer, read.1⟩) := rfl
    _ = _ := by
        rw [aside]
        simp only [Document.ofMembers, Decoding.membersWith, byKindField, Decoding.field,
          List.find?_cons_of_pos, beq_self_eq_true, List.contains_nil]
        cases readByKind delivery (.ofJson (.obj (tableWith spell policy.byKind))) <;> rfl

theorem read_written (readable : Flag.Readable spell) (delivery : Delivery) {policy : GlobalPolicy}
    (ascending : (policy.byKind.map Prod.fst).Pairwise (· < ·)) :
    read delivery (.ofJson (policy.toJsonWith spell)) = .ok policy := by
  rw [read_inTurn readable.plain, readByKind_written readable delivery ascending,
    Layer.readShared_written readable]
  rfl

/-- The first flag that is read, and its place: that of the first kind, else the general one. -/
def firstFlag (policy : GlobalPolicy) : List Decoding.Step × Flag :=
  match policy.byKind with
  | [] => ([], policy.layer.required)
  | (_, layer) :: _ => ([.key "type_option", .unnamed, .key "required"], layer.required)

theorem read_saved (delivery : Delivery) (policy : GlobalPolicy) :
    read delivery (.ofJson policy.toJson) =
      .error ⟨policy.firstFlag.1, policy.firstFlag.2.refusal⟩ := by
  rw [toJson_eq, read_inTurn Flag.plain_saved, firstFlag]
  cases policy.byKind with
  | nil =>
      rw [Layer.readShared_saved]
      rfl
  | cons entry rest =>
      obtain ⟨kind, layer⟩ := entry
      rw [readByKind_saved]
      rfl

end GlobalPolicy

namespace Config

/-- The layers by kind stand in the order of their kinds, and the overrides in the order of the names
    of their fields, at every depth. -/
structure Ordered (config : Config) : Prop where
  byKind : (config.global.byKind.map Prod.fst).Pairwise (· < ·)
  fields : Overrides.Ordered config.fields

/-- A configuration as it is saved, with its flags in a spelling. -/
def toJsonWith (spell : Flag → Json) (config : Config) : Json :=
  .obj
    [("global", config.global.toJsonWith spell),
     ("fields", .obj (Overrides.toMembersWith spell config.fields)),
     ("naming", config.naming.toJson)]

theorem toJson_eq (config : Config) : config.toJson = config.toJsonWith Flag.saved := by
  rw [toJson, toJsonWith, GlobalPolicy.toJson_eq, Overrides.toJson, Overrides.toMembers_eq]

/-- The fields of a configuration with what they are saved as. -/
def written (delivery : Delivery) (spell : Flag → Json) (config : Config) :
    List (Decoding.Field Config × Json) :=
  [(Decoding.field "global" (GlobalPolicy.read delivery) fun global config =>
      { config with global }, config.global.toJsonWith spell),
   (Decoding.field "fields" Overrides.read fun fields config => { config with fields },
    .obj (Overrides.toMembersWith spell config.fields)),
   (Decoding.field "naming" (Naming.Strategy.read delivery) fun naming config =>
      { config with naming }, config.naming.toJson)]

theorem read_fill (delivery : Delivery) (spell : Flag → Json) (config : Config) :
    read delivery (.ofJson (config.toJsonWith spell)) =
      Decoding.fill (config.written delivery spell) {} := by
  have once : ((config.written delivery spell).map (·.1.name)).Nodup := by
    change ["global", "fields", "naming"].Nodup
    decide
  exact Decoding.record_fill once {} delivery "struct CompilerConfig"

theorem read_written (readable : Flag.Readable spell) (delivery : Delivery) {config : Config}
    (ordered : config.Ordered) : read delivery (.ofJson (config.toJsonWith spell)) = .ok config := by
  have global := GlobalPolicy.read_written readable delivery ordered.byKind
  have fields := Overrides.read_written readable ordered.fields
  have naming := Naming.Strategy.read_toJson delivery config.naming
  rw [read_fill]
  simp only [written, Decoding.fill, Decoding.field, global, fields, naming]
  rfl

theorem read_saved (delivery : Delivery) (config : Config) :
    read delivery (.ofJson config.toJson) =
      .error ⟨.key "global" :: config.global.firstFlag.1, config.global.firstFlag.2.refusal⟩ := by
  have global := GlobalPolicy.read_saved delivery config.global
  rw [toJson_eq, read_fill, written, Decoding.fill, Decoding.field]
  rw [GlobalPolicy.toJson_eq] at global
  simp only [global]
  rfl

end Config

/-- No saved configuration is read back: the first flag that is read is refused, as it is saved under
    a name that no flag is read from. It is only the flags: with the flags in a spelling in which they
    are read, the same configuration is read back. -/
theorem saved_config_fails_only_at_flags (delivery : Delivery) {config : Config}
    (ordered : config.Ordered) :
    config.toJson = config.toJsonWith Flag.saved ∧
      Config.read delivery (.ofJson config.toJson) =
        .error ⟨.key "global" :: config.global.firstFlag.1, config.global.firstFlag.2.refusal⟩ ∧
      ∀ spell, Flag.Readable spell →
        Config.read delivery (.ofJson (config.toJsonWith spell)) = .ok config :=
  ⟨config.toJson_eq, config.read_saved delivery, fun _ readable =>
    Config.read_written readable delivery ordered⟩

namespace Sample

/-- Flags as truth values; an unset one is `null`. -/
def truth (flag : Flag) : Json :=
  match flag.value? with
  | none => .null
  | some value => .bool value

theorem truth_readable : Flag.Readable truth := by
  intro flag
  cases flag <;> rfl

/-- The overrides of a manager and of two of its fields. -/
def managed : FieldPolicy :=
  .mk { single := .on } [("age", .mk { required := .off } []), ("name", .mk {} [])]

/-- A configuration with flags at every place that holds some. -/
def stated : Config where
  global :=
    { layer := { required := .on, preferredDateFormat := "yyyy-MM-dd" }
      byKind := [(.boolean, { single := .on }), (.date, { preferEpoch := .on })] }
  fields := [("manager", managed), ("tags", .mk { single := .off } [])]
  naming := { generation := .fullPath, affixes := [.before "doc", .behind "type"] }

theorem stated_ordered : stated.Ordered := by
  have managedOrdered : managed.Ordered := .mk (by decide) (by simp [FieldPolicy.ordered_childless])
  exact ⟨by decide, by decide, by simp [stated, managedOrdered, FieldPolicy.ordered_childless]⟩

end Sample

theorem sample_saved_config_fails_only_at_flags :
    Sample.stated.Ordered ∧ Flag.Readable Sample.truth ∧
      Config.read .text (.ofJson Sample.stated.toJson) =
        .error ⟨[.key "global", .key "type_option", .unnamed, .key "required"],
          .refused "expected true, false, \"true\", \"false\" or \"\", got \"Unset\""⟩ ∧
      Config.read .text (.ofJson (Sample.stated.toJsonWith Sample.truth)) =
        .ok Sample.stated := by
  obtain ⟨-, refused, reads⟩ := saved_config_fails_only_at_flags .text Sample.stated_ordered
  exact ⟨Sample.stated_ordered, Sample.truth_readable, refused, reads _ Sample.truth_readable⟩

/-- The configuration that states nothing is refused when it is read from what it is saved as. -/
theorem sample_saved_default_is_refused :
    Config.Ordered {} ∧
      Config.read .text (.ofJson (Config.toJson {})) =
        .error ⟨[.key "global"],
          .refused "expected true, false, \"true\", \"false\" or \"\", got \"Unset\""⟩ ∧
      Config.read .text (.ofJson (Config.toJson {})) ≠ .ok {} := by
  have refused := Config.read_saved .text {}
  exact ⟨⟨.nil, .nil, List.forall_mem_nil _⟩, refused, by rw [refused]; nofun⟩

end StoreSchema
