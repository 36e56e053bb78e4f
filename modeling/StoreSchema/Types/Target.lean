import StoreSchema.Json.Basic
import StoreSchema.Schema.Kind

/-! # Target types of the kinds

What type the values of a kind get: one that exists already, one that is generated from the
parameters of the field, or a pair of record types.
-/

namespace StoreSchema

/-- What a required value is when the document holds none. -/
inductive Zero where
  | null
  | no
  | number
  | text
  | list
  | map
  deriving Repr, DecidableEq

namespace Zero

def name : Zero → String
  | .null => "null"
  | .no => "false"
  | .number => "number"
  | .text => "string"
  | .list => "array"
  | .map => "object"

def toJson : Zero → Json
  | .null => .null
  | .no => .bool false
  | .number => .int 0
  | .text => .str ""
  | .list => .arr []
  | .map => .obj []

end Zero

/-- A type that exists already: its name, what it needs in scope, and its zero. -/
structure Scalar where
  name : String
  dependencies : List String
  zero : Zero
  deriving Repr, DecidableEq

/-- How the values of a kind get their type. -/
inductive Target where
  | scalar (scalar : Scalar)
  | boolean
  | date (nanos : Bool)
  | aggregate
  | compound
  deriving Repr, DecidableEq

namespace Target

/-- The scope of the generic value type. -/
def jsonScope : String := "serde_json"

/-- The scope of the leaf types of the library. -/
def leafScope : String := "es_typegen::estype"

/-- A type that needs nothing in scope. -/
def plain (name : String) (zero : Zero) : Target :=
  .scalar ⟨name, [], zero⟩

def anyValue : Target :=
  .scalar ⟨"serde_json::Value", [jsonScope], .null⟩

def anyMap : Target :=
  .scalar ⟨"serde_json::Map<String, serde_json::Value>", [jsonScope], .map⟩

/-- A leaf type of the library. -/
def leaf (name : String) (zero : Zero) : Target :=
  .scalar ⟨name, [leafScope], zero⟩

end Target

def Kind.target : Kind → Target
  | .object | .nested => .compound
  | .boolean => .boolean
  | .date => .date false
  | .dateNanos => .date true
  | .aggregateMetricDouble => .aggregate
  | .alias | .geoShape | .shape => .anyValue
  | .binary => .leaf "estype::Binary" .text
  | .denseVector => .plain "Vec<f64>" .list
  | .geoPoint => .leaf "estype::GeoPoint" .map
  | .ip => .plain "std::net::IpAddr" .text
  | .rankFeature | .double | .scaledFloat => .plain "f64" .number
  | .rankFeatures => .plain "std::collections::BTreeMap<String, f64>" .map
  | .tokenCount | .long => .plain "i64" .number
  | .flattened | .histogram | .join | .percolator | .point | .integerRange | .floatRange
  | .longRange | .doubleRange | .dateRange | .ipRange => .anyMap
  | .completion | .searchAsYouType | .version | .keyword | .constantKeyword | .wildcard
  | .text => .plain "String" .text
  | .integer => .plain "i32" .number
  | .short => .plain "i16" .number
  | .byte => .plain "i8" .number
  | .float | .halfFloat => .plain "f32" .number
  | .unsignedLong => .plain "u64" .number

end StoreSchema
