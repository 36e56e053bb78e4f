import StoreSchema.Policy.Layer

/-! # The cascade

For each preference the most specific layer that states it decides: the field before its kind, the
kind before the layer for everything.
-/

namespace StoreSchema

/-- The effective preferences of one field. -/
structure Policy where
  required : Bool := false
  single : Bool := false
  preferStringBoolean : Bool := false
  preferredDateFormat : Option String := none
  preferEpoch : Bool := false
  deriving Repr, DecidableEq

namespace Policy

/-- The truth value that three preferences decide; without any it is `false`. -/
def decideFlag (general kind field : Flag) : Bool :=
  (((general.overlay kind).overlay field).value?).getD false

/-- The first text that is not empty. -/
def firstText (texts : List String) : Option String :=
  texts.find? (· ≠ "")

/-- Lays a field's layer over that of its kind, and both over the general one. -/
def overlay (general : Layer) (kind field : Option Layer) : Policy :=
  let kind := kind.getD {}
  let field := field.getD {}
  { required := decideFlag general.required kind.required field.required
    single := decideFlag general.single kind.single field.single
    preferStringBoolean :=
      decideFlag general.preferStringBoolean kind.preferStringBoolean field.preferStringBoolean
    preferredDateFormat :=
      firstText
        [field.preferredDateFormat, kind.preferredDateFormat, general.preferredDateFormat]
    preferEpoch := decideFlag general.preferEpoch kind.preferEpoch field.preferEpoch }

def toJson (policy : Policy) : Json :=
  .obj
    [("required", .bool policy.required), ("single", .bool policy.single),
     ("prefer_string_boolean", .bool policy.preferStringBoolean),
     ("preferred_date_format", Json.ofOption .str policy.preferredDateFormat),
     ("prefer_epoch", .bool policy.preferEpoch)]

end Policy

end StoreSchema
