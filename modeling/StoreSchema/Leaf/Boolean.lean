import StoreSchema.Json.Decoding

/-! # Truth values

A truth value comes as itself or as its name, and an empty text means false. It is written in one
of two styles.
-/

namespace StoreSchema.Leaf

/-- How a truth value is written. -/
inductive BooleanStyle where
  | asBool
  | asText
  deriving Repr, DecidableEq

namespace BooleanStyle

/-- The name of the type of a style. -/
def typeName : BooleanStyle → String
  | .asBool => "Boolean"
  | .asText => "BooleanStr"

/-- The truth value that a value states. -/
def ofJson (style : BooleanStyle) : Json → Except ShapeError Bool
  | .bool value => .ok value
  | .str "true" => .ok true
  | .str "false" | .str "" => .ok false
  | value =>
    .error
      { raw := value.text
        accepted := ["true", "false", "\"true\"", "\"false\"", "\"\""]
        typeName := style.typeName }

def text (value : Bool) : String :=
  if value then "true" else "false"

def toJson (style : BooleanStyle) (value : Bool) : Json :=
  match style with
  | .asBool => .bool value
  | .asText => .str (text value)

end BooleanStyle

end StoreSchema.Leaf
