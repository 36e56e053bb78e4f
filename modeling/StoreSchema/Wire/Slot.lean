import StoreSchema.Json.Decoding
import StoreSchema.Types.Member

/-! # Slots

A member of a stored document can be missing, `null`, a value, or a list of values. A slot keeps
these apart, except that a value is a list of one.
-/

namespace StoreSchema

/-- What a document holds for a member. -/
inductive Slot (α : Type) where
  | undefined
  | null
  | present (values : List α)
  deriving Repr, DecidableEq

namespace Slot

def isUndefined : Slot α → Bool
  | .undefined => true
  | _ => false

def isNull : Slot α → Bool
  | .null => true
  | _ => false

/-- The values, if the member is neither missing nor `null`. -/
def list? : Slot α → Option (List α)
  | .present values => some values
  | _ => none

/-- The values; a member that is missing or `null` has none. -/
def toList (slot : Slot α) : List α :=
  slot.list?.getD []

def isEmpty (slot : Slot α) : Bool :=
  slot.toList.isEmpty

def first? (slot : Slot α) : Option α :=
  slot.toList.head?

/-- Why a slot has no values, or no first one. -/
inductive Fault where
  | undefined
  | null
  | empty
  deriving Repr, DecidableEq

def Fault.message : Fault → String
  | .undefined => "field is undefined"
  | .null => "field is null"
  | .empty => "field is present but holds no value"

/-- The values, or why there are none. -/
def getList : Slot α → Except Fault (List α)
  | .undefined => .error .undefined
  | .null => .error .null
  | .present values => .ok values

/-- The first value, or why there is none. -/
def getFirst (slot : Slot α) : Except Fault α := do
  let values ← slot.getList
  match values with
  | value :: _ => pure value
  | [] => .error .empty

def map (f : α → β) : Slot α → Slot β
  | .undefined => .undefined
  | .null => .null
  | .present values => .present (values.map f)

/-- The slot with every value changed, unless one cannot be. -/
def tryMap (f : α → Except ε β) : Slot α → Except ε (Slot β)
  | .undefined => .ok .undefined
  | .null => .ok .null
  | .present values => do
    let changed ← values.mapM f
    pure (.present changed)

/-- The slot of one value, missing without one. -/
def ofOption : Option α → Slot α
  | some value => .present [value]
  | none => .undefined

/-- The slot of a list, missing without one. -/
def ofOptionList : Option (List α) → Slot α
  | some values => .present values
  | none => .undefined

/-! ## Documents -/

/-- A slot as it is written. A slot that is missing has no form of its own and is written like
    `null`. -/
def toJson (cardinality : Cardinality) : Slot Json → Json
  | .undefined | .null => .null
  | .present [value] =>
    match cardinality with
    | .single => value
    | .array => .arr [value]
  | .present values => .arr values

/-- The slot of any value. -/
def ofAny : Json → Slot Json
  | .null => .null
  | .arr items => .present items
  | value => .present [value]

/-- The fault of a value that is neither a value of a type nor a list of them. -/
def misshaped (typeName : String) (raw : Json) (reason : String) : ShapeError :=
  ⟨raw.text ++ " (" ++ reason ++ ")", ["null", "T", "array of T"], typeName⟩

/-- The slot of a value whose elements are of a type. A list whose items are not is tried once more
    as one element, for types that are lists themselves. -/
def ofJson (typeName : String) (message : ε → String) (read : Json → Except ε α) :
    Json → Except ShapeError (Slot α)
  | .null => .ok .null
  | .arr items =>
    match items.mapM read with
    | .ok values => .ok (.present values)
    | .error fault =>
      match read (.arr items) with
      | .ok value => .ok (.present [value])
      | .error _ => .error (misshaped typeName (.arr items) (message fault))
  | raw =>
    match read raw with
    | .ok value => .ok (.present [value])
    | .error fault => .error (misshaped typeName raw (message fault))

/-! ## Records -/

/-- The members of a record as they are written, without the missing ones. -/
def recordJson (members : List (String × Slot Json × Cardinality)) : Json :=
  .obj (members.filterMap fun (name, slot, cardinality) =>
    if slot.isUndefined then none else some (name, slot.toJson cardinality))

end Slot

end StoreSchema
