import StoreSchema.Number.Binary64

/-! # JSON values

Integers and doubles are told apart, so that `1` and `1.0` stay different, and the members of an
object keep their order.
-/

namespace StoreSchema

inductive Json where
  | null
  | bool (value : Bool)
  /-- An integer literal between `-2 ^ 63` and `2 ^ 64 - 1`. -/
  | int (value : Int)
  /-- Any other number. -/
  | float (value : Binary64)
  | str (value : String)
  | arr (items : List Json)
  | obj (members : List (String × Json))
  deriving Repr, BEq, Inhabited

namespace Json

def isObject : Json → Bool
  | .obj _ => true
  | _ => false

/-- Whether a value is a number of either kind. -/
def isNumber : Json → Bool
  | .int _ | .float _ => true
  | _ => false

def str? : Json → Option String
  | .str value => some value
  | _ => none

def arr? : Json → Option (List Json)
  | .arr items => some items
  | _ => none

def double? : Json → Option Binary64
  | .int value => some (Binary64.ofInt value)
  | .float value => some value
  | _ => none

/-- A double as a value; one that is infinite or no number has none and becomes `null`. -/
def ofDouble : Binary64 → Json
  | .finite negative mantissa exponent => .float (.finite negative mantissa exponent)
  | _ => .null

def ofStrings (texts : List String) : Json :=
  .arr (texts.map .str)

/-- A value that may be missing; a missing one is `null`. -/
def ofOption (toJson : α → Json) : Option α → Json
  | some value => toJson value
  | none => .null

end Json

end StoreSchema
