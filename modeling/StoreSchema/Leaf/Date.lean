import StoreSchema.Date.Format

/-! # Dates with a format of their own

The formats of the date types that need no definition.
-/

namespace StoreSchema.Leaf

/-- A date type that needs no definition. -/
inductive DateType where
  | date
  | dateNanos
  | epochMillis
  | epochSecond
  deriving Repr, DecidableEq

namespace DateType

/-- The format of a date type. -/
def source : DateType → String
  | .date => "strict_date_optional_time||epoch_millis"
  | .dateNanos => "strict_date_optional_time_nanos||epoch_millis"
  | .epochMillis => "epoch_millis"
  | .epochSecond => "epoch_second"

/-- Whether dates of a type are written as numbers. -/
def prefersEpoch : DateType → Bool
  | .date | .dateNanos => false
  | .epochMillis | .epochSecond => true

def format (type : DateType) : Except DateFormat.Fault DateFormat :=
  DateFormat.compile type.source none type.prefersEpoch

end DateType

end StoreSchema.Leaf
