import StoreSchema.Wire.Record

/-! # Reading stored documents

A stored document becomes a wire record by the definitions of a forest. Keys without a member are
dropped, and what leaves hold is not looked at.
-/

namespace StoreSchema.Forest

def isVector : Json → Bool
  | .arr items => items.all Json.isNumber
  | _ => false

/-- Whether a list is one leaf, as the numbers of a dense vector are. -/
def isLeafList (kind : Kind) (raw : Json) : Bool :=
  kind = .denseVector && isVector raw

/-- The record of an open map: every key has a slot of leaves. -/
def openRecord (entries : List (String × Json)) : WireRecord :=
  entries.foldl (fun record (key, raw) => Keyed.insert key ((Slot.ofAny raw).map .leaf) record) []

mutual

/-- The record of a type that a stored value holds. -/
def decodeAt (forest : Forest) (path type : String) (wire : Json) : Except WireFault WireRecord :=
  match forest.definition type with
  | .error fault => .error fault
  | .ok definition =>
    match wire with
    | .obj entries =>
      match definition.body with
      | .openMap => .ok (openRecord entries)
      | .record members => decodeMembers forest path entries members
      | _ => .error (.unknownType type)
    | raw => .error (.misshaped path raw "object" definition.wireName)
termination_by (sizeOf wire, 0)

/-- The slots of members, each from the value under its name. -/
def decodeMembers (forest : Forest) (path : String) (entries : List (String × Json)) :
    List Member → Except WireFault WireRecord
  | [] => .ok []
  | member :: rest =>
    match found : entries.lookup member.name with
    | none => decodeMembers forest path entries rest
    | some raw =>
      have := Keyed.sizeOf_lt_of_lookup found
      match decodeSlot forest (WireFault.below path member.name) member raw with
      | .error fault => .error fault
      | .ok slot => do
        let record ← decodeMembers forest path entries rest
        pure (Keyed.insert member.name slot record)
termination_by members => (sizeOf entries, members.length)

/-- The slot of a member. -/
def decodeSlot (forest : Forest) (path : String) (member : Member) (raw : Json) :
    Except WireFault (Slot WireValue) :=
  if isLeafList member.kind raw then .ok (.present [.leaf raw])
  else
    match member.child? with
    | none => .ok ((Slot.ofAny raw).map .leaf)
    | some child =>
      match raw with
      | .null => .ok .null
      | .arr items => do
        let values ← decodeItems forest path child items
        pure (.present values)
      | value => do
        let record ← decodeAt forest path child value
        pure (.present [.record record])
termination_by (sizeOf raw, 1)

/-- The records of a list. -/
def decodeItems (forest : Forest) (path type : String) :
    List Json → Except WireFault (List WireValue)
  | [] => .ok []
  | item :: rest => do
    let record ← decodeAt forest path type item
    let values ← decodeItems forest path type rest
    pure (.record record :: values)
termination_by items => (sizeOf items, 0)

end

/-- The record of a type that a stored document holds. -/
def decode (forest : Forest) (type : String) (wire : Json) : Except WireFault WireRecord :=
  decodeAt forest "" type wire

end StoreSchema.Forest
