import StoreSchema.Leaf.Plain

/-! # Aggregates

The parts of an aggregate that a field does not declare stay missing, and are not written.
-/

namespace StoreSchema.Leaf

/-- An aggregate of numbers. -/
structure Aggregate where
  min : Option Binary64 := none
  max : Option Binary64 := none
  sum : Option Binary64 := none
  valueCount : Option Int := none
  deriving Repr, DecidableEq

namespace Aggregate

/-- Reads a leaf that a document writes out. -/
def part (read : Json → Except Decoding.Cause α) (document : Document) : Decoding.Result α := do
  let value ← Decoding.anyValue document
  match read value with
  | .ok leaf => pure leaf
  | .error cause => Decoding.fail cause

/-- The parts of an aggregate. -/
def fields : List (Decoding.Field Aggregate) :=
  [Decoding.field "min" (part (optional double)) fun min aggregate => { aggregate with min },
   Decoding.field "max" (part (optional double)) fun max aggregate => { aggregate with max },
   Decoding.field "sum" (part (optional double)) fun sum aggregate => { aggregate with sum },
   Decoding.field "value_count" (part (optional unsigned64)) fun valueCount aggregate =>
     { aggregate with valueCount }]

/-- The aggregate that a value states. -/
def ofJson (value : Json) : Except Decoding.Cause Aggregate :=
  match Decoding.record .value "struct AggregateMetricDouble" fields {} (Document.ofJson value) with
  | .ok aggregate => .ok aggregate
  | .error e => .error e.cause

/-- The member of a part, unless the part is missing. -/
def member (name : String) (toJson : α → Json) (part : Option α) : List (String × Json) :=
  (part.map fun value => (name, toJson value)).toList

/-- An aggregate as it is written. -/
def toJson (aggregate : Aggregate) : Json :=
  .obj
    (member "min" Json.ofDouble aggregate.min ++ member "max" Json.ofDouble aggregate.max ++
      member "sum" Json.ofDouble aggregate.sum ++ member "value_count" .int aggregate.valueCount)

end Aggregate

end StoreSchema.Leaf
