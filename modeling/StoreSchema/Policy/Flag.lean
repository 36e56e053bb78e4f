import StoreSchema.Json.Decoding

/-! # Flags

A yes-or-no preference that may be left to a less specific layer.
-/

namespace StoreSchema

/-- A preference. -/
inductive Flag where
  | unset
  | on
  | off
  deriving Repr, DecidableEq

namespace Flag

def ofBool (value : Bool) : Flag :=
  if value then .on else .off

def value? : Flag → Option Bool
  | .unset => none
  | .on => some true
  | .off => some false

/-- The more specific of two preferences wins unless it is unset. -/
def overlay (general specific : Flag) : Flag :=
  match specific with
  | .unset => general
  | set => set

/-- How a preference is written when a configuration is shown. -/
def name : Flag → String
  | .unset => "Unset"
  | .on => "True"
  | .off => "False"

/-- Why a value is no preference. -/
inductive Misfit where
  | unknownWord (word : String)
  | noFlag (value : Json)
  deriving Repr

def Misfit.message : Misfit → String
  | .unknownWord word =>
    "expected true, false, \"true\", \"false\" or \"\", got \"" ++ word ++ "\""
  | .noFlag value => "expected a boolean flag, got " ++ value.text

def ofJson : Json → Except Misfit Flag
  | .null | .str "" => .ok .unset
  | .bool value => .ok (ofBool value)
  | .str "true" => .ok .on
  | .str "false" => .ok .off
  | .str word => .error (.unknownWord word)
  | value => .error (.noFlag value)

def read (document : Document) : Decoding.Result Flag := do
  let value ← Decoding.anyValue document
  match ofJson value with
  | .ok flag => pure flag
  | .error misfit => Decoding.fail (.refused misfit.message)

end Flag

end StoreSchema
