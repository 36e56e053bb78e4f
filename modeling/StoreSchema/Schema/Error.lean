import StoreSchema.Json.Printer
import StoreSchema.Schema.Kind

/-! # Faults of a mapping

What can be wrong with a mapping document, with the path of the descriptor at fault.
-/

namespace StoreSchema

/-- A path of field names, from the root of a mapping down. -/
abbrev FieldPath := List String

/-- A path as messages show it. -/
def FieldPath.dotted (path : FieldPath) : String :=
  ".".intercalate path

namespace Schema

inductive Malformation where
  | descriptorNotObject
  | kindNotString (value : Json)
  | propertiesOfLeaf (kind : Kind)
  | unsupportedDynamic (value : Json)
  | propertiesNotObject
  | documentNotObject
  | invalidText
  | mappedPropertiesNotObject
  | formatNotString (value : Json)
  | metricsNotArray
  | compoundWithoutBody (kind : Kind)
  deriving Repr

inductive Error where
  | unknownKind (name : String) (path : FieldPath)
  | malformed (path : FieldPath) (reason : Malformation)
  | unknownMetric (name : String) (path : FieldPath)
  deriving Repr

def Malformation.message : Malformation → String
  | .descriptorNotObject => "field descriptor must be an object"
  | .kindNotString value => "`type` must be a string, got " ++ value.text
  | .propertiesOfLeaf kind => "`" ++ kind.name ++ "` field cannot have `properties`"
  | .unsupportedDynamic value => "unsupported `dynamic` value " ++ value.text
  | .propertiesNotObject => "`properties` must be an object"
  | .documentNotObject => "mapping document must be an object"
  | .invalidText => "invalid JSON"
  | .mappedPropertiesNotObject => "`mappings.properties` must be an object"
  | .formatNotString value => "`format` must be a string, got " ++ value.text
  | .metricsNotArray => "`metrics` must be an array of metric names"
  | .compoundWithoutBody kind => "`" ++ kind.name ++ "` field without a body"

def Error.message : Error → String
  | .unknownKind name path => "unknown field type `" ++ name ++ "` at `" ++ path.dotted ++ "`"
  | .malformed path reason =>
    "malformed descriptor at `" ++ path.dotted ++ "`: " ++ reason.message
  | .unknownMetric name path =>
    "unknown aggregate metric `" ++ name ++ "` at `" ++ path.dotted ++ "`"

end Schema

end StoreSchema
