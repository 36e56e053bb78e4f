import StoreSchema.Policy.Flag

/-! # Layers of preferences

One layer holds the preferences that were given at one place: for everything, for a kind, or for a
field. The most specific layer that states a preference decides it.
-/

namespace StoreSchema

/-- The preferences given at one place. -/
structure Layer where
  /-- The plain member is a value rather than an optional one. -/
  required : Flag := .unset
  /-- The plain member is one value rather than a list, and the wire form drops the brackets of a
      list of one. -/
  single : Flag := .unset
  /-- Truth values are written as strings. -/
  preferStringBoolean : Flag := .unset
  /-- The layout that dates are written in; empty when unset. -/
  preferredDateFormat : String := ""
  /-- Dates are written as numbers. -/
  preferEpoch : Flag := .unset
  deriving Repr, DecidableEq

namespace Layer

def fields : List (Decoding.Field Layer) :=
  [Decoding.field "required" Flag.read fun flag layer => { layer with required := flag },
   Decoding.field "single" Flag.read fun flag layer => { layer with single := flag },
   Decoding.field "prefer_string_boolean" Flag.read fun flag layer =>
     { layer with preferStringBoolean := flag },
   Decoding.field "preferred_date_format" Decoding.string fun text layer =>
     { layer with preferredDateFormat := text },
   Decoding.field "prefer_epoch" Flag.read fun flag layer => { layer with preferEpoch := flag }]

def read (delivery : Decoding.Delivery) : Document → Decoding.Result Layer :=
  Decoding.record delivery "struct OptionLayer" fields {}

/-- Reads a layer from the members that its owner left over. -/
def readShared (entries : List (String × Json)) : Decoding.Result Layer :=
  Decoding.shared fields {} entries

def toMembers (layer : Layer) : List (String × Json) :=
  [("required", .str layer.required.name), ("single", .str layer.single.name),
   ("prefer_string_boolean", .str layer.preferStringBoolean.name),
   ("preferred_date_format", .str layer.preferredDateFormat),
   ("prefer_epoch", .str layer.preferEpoch.name)]

def toJson (layer : Layer) : Json :=
  .obj layer.toMembers

end Layer

end StoreSchema
