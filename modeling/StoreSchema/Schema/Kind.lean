/-! # Field kinds

The kinds of field that a mapping can declare, and the policies for keys that it does not declare.
-/

namespace StoreSchema

/-- The kind of a field, as its descriptor names it under `type`. -/
inductive Kind where
  | aggregateMetricDouble
  | alias
  | binary
  | boolean
  | completion
  | date
  | dateNanos
  | denseVector
  | flattened
  | geoPoint
  | geoShape
  | histogram
  | ip
  | join
  | nested
  | object
  | percolator
  | point
  | rankFeature
  | rankFeatures
  | searchAsYouType
  | shape
  | tokenCount
  | version
  | keyword
  | constantKeyword
  | wildcard
  | text
  | long
  | integer
  | short
  | byte
  | double
  | float
  | halfFloat
  | scaledFloat
  | unsignedLong
  | integerRange
  | floatRange
  | longRange
  | doubleRange
  | dateRange
  | ipRange
  deriving Repr, DecidableEq

namespace Kind

def name : Kind → String
  | .aggregateMetricDouble => "aggregate_metric_double"
  | .alias => "alias"
  | .binary => "binary"
  | .boolean => "boolean"
  | .completion => "completion"
  | .date => "date"
  | .dateNanos => "date_nanos"
  | .denseVector => "dense_vector"
  | .flattened => "flattened"
  | .geoPoint => "geo_point"
  | .geoShape => "geo_shape"
  | .histogram => "histogram"
  | .ip => "ip"
  | .join => "join"
  | .nested => "nested"
  | .object => "object"
  | .percolator => "percolator"
  | .point => "point"
  | .rankFeature => "rank_feature"
  | .rankFeatures => "rank_features"
  | .searchAsYouType => "search_as_you_type"
  | .shape => "shape"
  | .tokenCount => "token_count"
  | .version => "version"
  | .keyword => "keyword"
  | .constantKeyword => "constant_keyword"
  | .wildcard => "wildcard"
  | .text => "text"
  | .long => "long"
  | .integer => "integer"
  | .short => "short"
  | .byte => "byte"
  | .double => "double"
  | .float => "float"
  | .halfFloat => "half_float"
  | .scaledFloat => "scaled_float"
  | .unsignedLong => "unsigned_long"
  | .integerRange => "integer_range"
  | .floatRange => "float_range"
  | .longRange => "long_range"
  | .doubleRange => "double_range"
  | .dateRange => "date_range"
  | .ipRange => "ip_range"

def all : List Kind :=
  [.aggregateMetricDouble, .alias, .binary, .boolean, .completion, .date, .dateNanos,
   .denseVector, .flattened, .geoPoint, .geoShape, .histogram, .ip, .join, .nested, .object,
   .percolator, .point, .rankFeature, .rankFeatures, .searchAsYouType, .shape, .tokenCount,
   .version, .keyword, .constantKeyword, .wildcard, .text, .long, .integer, .short, .byte,
   .double, .float, .halfFloat, .scaledFloat, .unsignedLong, .integerRange, .floatRange,
   .longRange, .doubleRange, .dateRange, .ipRange]

def ofName? (name : String) : Option Kind :=
  all.find? (·.name == name)

/-- Whether fields of a kind have fields of their own. -/
def isCompound : Kind → Bool
  | .object | .nested => true
  | _ => false

/-- Kinds are ordered as they are declared. -/
instance : LT Kind := ⟨fun a b => a.ctorIdx < b.ctorIdx⟩

instance : DecidableLT Kind := fun a b => inferInstanceAs (Decidable (a.ctorIdx < b.ctorIdx))

end Kind

end StoreSchema
