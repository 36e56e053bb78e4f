import StoreSchema.Policy.Layer
import StoreSchema.Proofs.Json.Records

/-! # Saved flags and layers

What a layer is saved as depends on how its flags are spelled. A layer is read back if its flags are
spelled in a way in which they are read. The names that flags are saved under are not of this kind:
no flag is read from its name, so no layer is read from what it is saved as.
-/

namespace StoreSchema

namespace Flag

/-- How flags are saved. -/
def saved (flag : Flag) : Json :=
  .str flag.name

/-- What is wrong with a saved flag. -/
def refusal (flag : Flag) : Decoding.Cause :=
  .refused (Misfit.unknownWord flag.name).message

theorem read_saved (flag : Flag) : read (.ofJson flag.saved) = Decoding.fail flag.refusal := by
  cases flag <;> rfl

/-- A spelling from which every flag is read back. -/
def Readable (spell : Flag → Json) : Prop :=
  ∀ flag, ofJson (spell flag) = .ok flag

/-- A spelling in values that stay as they are when they are put aside. -/
def Plain (spell : Flag → Json) : Prop :=
  ∀ flag, Decoding.anyValue (.ofJson (spell flag)) = .ok (spell flag)

theorem plain_saved : Plain saved :=
  fun _ => rfl

theorem Readable.plain {spell : Flag → Json} (readable : Readable spell) : Plain spell := by
  intro flag
  have reads := readable flag
  generalize spell flag = value at reads
  cases value with
  | null | bool | int | float | str => rfl
  | arr | obj => cases reads

theorem Readable.read {spell : Flag → Json} (readable : Readable spell) (flag : Flag) :
    Flag.read (.ofJson (spell flag)) = .ok flag := by
  rw [Flag.read, readable.plain flag, Outcome.ok_bind, readable flag]
  rfl

end Flag

namespace Layer

open Decoding (Delivery)

/-- The members that a layer is saved as, with its flags in a spelling. -/
def toMembersWith (spell : Flag → Json) (layer : Layer) : List (String × Json) :=
  [("required", spell layer.required), ("single", spell layer.single),
   ("prefer_string_boolean", spell layer.preferStringBoolean),
   ("preferred_date_format", .str layer.preferredDateFormat),
   ("prefer_epoch", spell layer.preferEpoch)]

/-- A layer as it is saved, with its flags in a spelling. -/
def toJsonWith (spell : Flag → Json) (layer : Layer) : Json :=
  .obj (layer.toMembersWith spell)

theorem toMembers_eq (layer : Layer) : layer.toMembers = layer.toMembersWith Flag.saved := rfl

variable {spell : Flag → Json}

theorem notMem_toMembersWith {name : String} (layer : Layer)
    (other : name ∉ fields.map (·.name)) : ∀ entry ∈ layer.toMembersWith spell, name ≠ entry.1 := by
  rintro entry inside rfl
  exact other (List.mem_map_of_mem inside :)

theorem anyValue_toMembersWith (plain : Flag.Plain spell) (layer : Layer) :
    ∀ entry ∈ layer.toMembersWith spell, Decoding.anyValue (.ofJson entry.2) = .ok entry.2 := by
  simp only [toMembersWith, List.forall_mem_cons, plain _, true_and]
  exact ⟨rfl, List.forall_mem_nil _⟩

/-- The fields of a layer with what they are saved as. -/
def written (spell : Flag → Json) (layer : Layer) : List (Decoding.Field Layer × Json) :=
  fields.zip
    [spell layer.required, spell layer.single, spell layer.preferStringBoolean,
     .str layer.preferredDateFormat, spell layer.preferEpoch]

theorem once_written (spell : Flag → Json) (layer : Layer) :
    ((layer.written spell).map (·.1.name)).Nodup := by
  change (fields.map (·.name)).Nodup
  decide

theorem fill_written (readable : Flag.Readable spell) (layer : Layer) :
    Decoding.fill (layer.written spell) {} = .ok layer := by
  have format : Decoding.string (.ofJson (.str layer.preferredDateFormat)) =
      .ok layer.preferredDateFormat := rfl
  simp only [written, fields, List.zip_cons_cons, List.zip_nil_right, Decoding.fill,
    Decoding.field, readable.read, format]
  rfl

theorem fill_saved (layer : Layer) :
    Decoding.fill (layer.written Flag.saved) {} =
      .error ⟨[.key "required"], layer.required.refusal⟩ := by
  simp only [written, fields, List.zip_cons_cons, Decoding.fill, Decoding.field, Flag.read_saved]
  rfl

theorem readShared_written (readable : Flag.Readable spell) (layer : Layer) :
    readShared (layer.toMembersWith spell) = .ok layer := by
  refine (Decoding.shared_fill (layer.once_written spell) {}).trans ?_
  rw [fill_written readable]
  rfl

theorem readShared_saved (layer : Layer) :
    readShared (layer.toMembersWith Flag.saved) = Decoding.fail layer.required.refusal := by
  refine (Decoding.shared_fill (layer.once_written Flag.saved) {}).trans ?_
  rw [fill_saved]
  rfl

theorem read_written (readable : Flag.Readable spell) (delivery : Delivery) (layer : Layer) :
    read delivery (.ofJson (layer.toJsonWith spell)) = .ok layer :=
  (Decoding.record_fill (layer.once_written spell) {} delivery "struct OptionLayer").trans
    (fill_written readable layer)

theorem read_saved (delivery : Delivery) (layer : Layer) :
    read delivery (.ofJson (layer.toJsonWith Flag.saved)) =
      .error ⟨[.key "required"], layer.required.refusal⟩ :=
  (Decoding.record_fill (layer.once_written Flag.saved) {} delivery "struct OptionLayer").trans
    layer.fill_saved

end Layer

end StoreSchema
