/-! # Metrics

The parts of a field that holds aggregated numbers.
-/

namespace StoreSchema

/-- A part of an aggregate. -/
inductive Metric where
  | min
  | max
  | sum
  | valueCount
  deriving Repr, DecidableEq

namespace Metric

def name : Metric → String
  | .min => "min"
  | .max => "max"
  | .sum => "sum"
  | .valueCount => "value_count"

def all : List Metric :=
  [.min, .max, .sum, .valueCount]

def ofName? (name : String) : Option Metric :=
  all.find? (·.name == name)

/-- Metrics are ordered as they are declared. -/
instance : LT Metric := ⟨fun a b => a.ctorIdx < b.ctorIdx⟩

instance : DecidableLT Metric := fun a b => inferInstanceAs (Decidable (a.ctorIdx < b.ctorIdx))

end Metric

end StoreSchema
