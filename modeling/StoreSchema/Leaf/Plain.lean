import StoreSchema.Json.Decoding

/-! # Plain leaves

Readers of the types that exist everywhere: integers of a width, doubles, texts, maps and lists.
-/

namespace StoreSchema.Leaf

open Decoding (Cause Found)

/-- The fault of a value that is of another type. -/
def wrongType (value : Json) (expected : String) : Cause :=
  .wrongType (.ofJson value) expected

/-- An integer within a range that has a name. -/
def integer (low high : Int) (name : String) : Json → Except Cause Int
  | .int value =>
    if low ≤ value ∧ value ≤ high then .ok value else .error (.wrongValue (.int value) name)
  | value => .error (wrongType value name)

/-- A signed integer of a number of bits. -/
def signed (bits : Nat) (name : String) : Json → Except Cause Int :=
  integer (-(Nat.pow 2 (bits - 1))) (Nat.pow 2 (bits - 1) - 1) name

/-- An unsigned integer of 64 bits. -/
def unsigned64 : Json → Except Cause Int :=
  integer 0 (Nat.pow 2 64 - 1) "u64"

/-- A double; integers are taken as well. -/
def double (value : Json) : Except Cause Binary64 :=
  match value.double? with
  | some double => .ok double
  | none => .error (wrongType value "f64")

def text : Json → Except Cause String
  | .str value => .ok value
  | value => .error (wrongType value "a string")

def map : Json → Except Cause (List (String × Json))
  | .obj members => .ok members
  | value => .error (wrongType value "a map")

def list (read : Json → Except Cause α) : Json → Except Cause (List α)
  | .arr items => items.mapM read
  | value => .error (wrongType value "a sequence")

/-- A leaf that may be missing, which is written `null`. -/
def optional (read : Json → Except Cause α) : Json → Except Cause (Option α)
  | .null => .ok none
  | value => (read value).map some

end StoreSchema.Leaf
