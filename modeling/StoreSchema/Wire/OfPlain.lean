import StoreSchema.Wire.Record

/-! # Reading plain documents

A plain document becomes a wire record. Optional members that are `null` or not there are missing
from the record, required ones have to be there.
-/

namespace StoreSchema.Forest

/-- The slot of a member that is `null` or not there. -/
def absentSlot (path : String) (member : Member) : Except WireFault (Slot WireValue) :=
  match member.form with
  | .optionalValue | .optionalList => .ok .undefined
  | .value => .error (.misshaped path .null "present value" member.plainType)
  | .list => .error (.misshaped path .null "array" member.plainType)

/-- Adds a slot to a record unless it is missing. -/
def addSlot (name : String) (slot : Slot WireValue) (record : WireRecord) : WireRecord :=
  if slot.isUndefined then record else Keyed.insert name slot record

/-- The slot of a key of an open map. -/
def openSlot : Json → Slot WireValue
  | .arr items => .present (items.map .leaf)
  | value => .present [.leaf value]

/-- The record of an open map. -/
def openOfPlain (entries : List (String × Json)) : WireRecord :=
  entries.foldl (fun record (key, raw) => Keyed.insert key (openSlot raw) record) []

mutual

/-- The record of a type that a plain value holds. -/
def ofPlainAt (forest : Forest) (path type : String) (plain : Json) :
    Except WireFault WireRecord :=
  match forest.definition type with
  | .error fault => .error fault
  | .ok definition =>
    match plain with
    | .obj entries =>
      match definition.body with
      | .openMap => .ok (openOfPlain entries)
      | .record members => ofPlainMembers forest path entries members
      | _ => .error (.unknownType type)
    | raw => .error (.misshaped path raw "object" definition.name)
termination_by (sizeOf plain, 0)

/-- The slots of members, each from the value under its name. -/
def ofPlainMembers (forest : Forest) (path : String) (entries : List (String × Json)) :
    List Member → Except WireFault WireRecord
  | [] => .ok []
  | member :: rest =>
    match found : entries.lookup member.name with
    | none => do
      let slot ← absentSlot (WireFault.below path member.name) member
      let record ← ofPlainMembers forest path entries rest
      pure (addSlot member.name slot record)
    | some raw => do
      have := Keyed.sizeOf_lt_of_lookup found
      let slot ← ofPlainSlot forest (WireFault.below path member.name) member raw
      let record ← ofPlainMembers forest path entries rest
      pure (addSlot member.name slot record)
termination_by members => (sizeOf entries, members.length)

/-- The slot of a member. -/
def ofPlainSlot (forest : Forest) (path : String) (member : Member) (raw : Json) :
    Except WireFault (Slot WireValue) :=
  match raw with
  | .null => absentSlot path member
  | .arr items =>
    if member.form.isSingle then do
      let value ← ofPlainValue forest path member.child? (.arr items)
      pure (.present [value])
    else do
      let values ← ofPlainItems forest path member.child? items
      pure (.present values)
  | value =>
    if member.form.isSingle then do
      let value ← ofPlainValue forest path member.child? value
      pure (.present [value])
    else .error (.misshaped path value "array" member.plainType)
termination_by (sizeOf raw, 2)

/-- A value of a leaf, or of a record of a type. -/
def ofPlainValue (forest : Forest) (path : String) (child : Option String) (raw : Json) :
    Except WireFault WireValue :=
  match child with
  | none => .ok (.leaf raw)
  | some type => do
    let record ← ofPlainAt forest path type raw
    pure (.record record)
termination_by (sizeOf raw, 1)

/-- The values of a list. -/
def ofPlainItems (forest : Forest) (path : String) (child : Option String) :
    List Json → Except WireFault (List WireValue)
  | [] => .ok []
  | item :: rest => do
    let value ← ofPlainValue forest path child item
    let values ← ofPlainItems forest path child rest
    pure (value :: values)
termination_by items => (sizeOf items, 0)

end

/-- The record of a type that a plain document holds. -/
def ofPlain (forest : Forest) (type : String) (plain : Json) : Except WireFault WireRecord :=
  ofPlainAt forest "" type plain

end StoreSchema.Forest
