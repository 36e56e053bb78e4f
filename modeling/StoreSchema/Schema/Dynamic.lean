import StoreSchema.Json.Basic

/-! # Undeclared keys

What a compound field does with keys that its mapping does not declare.
-/

namespace StoreSchema

/-- The treatment of undeclared keys. -/
inductive Dynamic where
  /-- They are accepted and indexed. -/
  | accepted
  /-- They are kept in the stored document and otherwise ignored. -/
  | ignored
  /-- They become fields at query time. -/
  | runtime
  /-- They reject the document. -/
  | strict
  deriving Repr, DecidableEq

namespace Dynamic

/-- The treatment that the value of `dynamic` asks for. -/
def ofJson? : Json → Option Dynamic
  | .bool true | .str "true" => some .accepted
  | .bool false | .str "false" => some .ignored
  | .str "runtime" => some .runtime
  | .str "strict" => some .strict
  | _ => none

def name : Dynamic → String
  | .accepted => "open"
  | .ignored => "closed"
  | .runtime => "runtime"
  | .strict => "strict"

end Dynamic

end StoreSchema
