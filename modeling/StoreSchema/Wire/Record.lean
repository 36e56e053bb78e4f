import StoreSchema.Types.Forest
import StoreSchema.Wire.Slot

/-! # Wire records

A document in memory: the slots of a record by member name, with records inside where members are
compound.
-/

namespace StoreSchema

/-- A value of a wire record. -/
inductive WireValue where
  | leaf (value : Json)
  | record (members : List (String × Slot WireValue))
  deriving Inhabited

/-- The slots of a record by member name, in ascending order. A name without a slot is missing. -/
abbrev WireRecord := List (String × Slot WireValue)

/-- Why a document does not fit the types of a forest. -/
inductive WireFault where
  | unknownType (name : String)
  | shape (path : String) (fault : ShapeError)
  deriving Repr, DecidableEq

namespace WireFault

def message : WireFault → String
  | .unknownType name => "no type named `" ++ name ++ "` in the forest"
  | .shape path fault => "at `" ++ path ++ "`: " ++ fault.message

/-- The fault of a value at a path. -/
def misshaped (path : String) (raw : Json) (accepted typeName : String) : WireFault :=
  .shape path ⟨raw.text, [accepted], typeName⟩

/-- The path of a member below a path. -/
def below (path name : String) : String :=
  if path.isEmpty then name else path ++ "." ++ name

end WireFault

namespace Forest

/-- The definition with a name, or the fault of a name without one. -/
def definition (forest : Forest) (name : String) : Except WireFault Definition :=
  match forest.find? name with
  | some definition => .ok definition
  | none => .error (.unknownType name)

end Forest

/-- The type of the records that a member holds, if it is compound. -/
def Member.child? (member : Member) : Option String :=
  match member.element with
  | .compound plain _ => some plain
  | _ => none

end StoreSchema
