import StoreSchema.Wire.Record

/-! # Writing wire records

A wire record is written in two ways: as the document that is stored, and as the plain document
that programs work with. Both walk the record by its definition and differ in what becomes of a
slot.
-/

namespace StoreSchema.Forest

/-- What becomes of the slots of records. -/
structure Rendering where
  /-- The members of a document that a slot becomes: one or none. -/
  member : Member → Slot Json → Except WireFault (List (String × Json))
  /-- The members of a document that a slot of an open map becomes. -/
  entry : String → Slot Json → List (String × Json)

/-- The fault of a record where a leaf belongs. -/
def recordForLeaf (members : WireRecord) : WireFault :=
  .misshaped "" (.int members.length) "leaf value" "wire record"

mutual

/-- A record of a type as a document. -/
def render (forest : Forest) (style : Rendering) (type : String) (record : WireRecord) :
    Except WireFault Json :=
  match forest.definition type with
  | .error fault => .error fault
  | .ok definition =>
    match definition.body with
    | .openMap => do
      let members ← renderEntries forest style record
      pure (.obj members)
    | .record members => do
      let members ← renderMembers forest style record members
      pure (.obj members)
    | _ => .error (.unknownType type)
termination_by (sizeOf record, 1, 0)

/-- The slots of an open map. -/
def renderEntries (forest : Forest) (style : Rendering) :
    WireRecord → Except WireFault (List (String × Json))
  | [] => .ok []
  | (key, slot) :: rest => do
    let slot ← renderSlot forest style none slot
    let members ← renderEntries forest style rest
    pure (style.entry key slot ++ members)
termination_by record => (sizeOf record, 0, 0)

/-- The slots of the members of a record, in the order of their declaration. -/
def renderMembers (forest : Forest) (style : Rendering) (record : WireRecord) :
    List Member → Except WireFault (List (String × Json))
  | [] => .ok []
  | member :: rest =>
    match found : record.lookup member.name with
    | none => do
      let first ← style.member member .undefined
      let members ← renderMembers forest style record rest
      pure (first ++ members)
    | some slot => do
      have := Keyed.sizeOf_lt_of_lookup found
      let slot ← renderSlot forest style member.child? slot
      let first ← style.member member slot
      let members ← renderMembers forest style record rest
      pure (first ++ members)
termination_by members => (sizeOf record, 0, members.length)

/-- A slot with its values rendered. -/
def renderSlot (forest : Forest) (style : Rendering) (child : Option String) :
    Slot WireValue → Except WireFault (Slot Json)
  | .undefined => .ok .undefined
  | .null => .ok .null
  | .present values => do
    let values ← renderValues forest style child values
    pure (.present values)
termination_by slot => (sizeOf slot, 0, 0)

/-- Values of leaves, or of records of a type. -/
def renderValues (forest : Forest) (style : Rendering) (child : Option String) :
    List WireValue → Except WireFault (List Json)
  | [] => .ok []
  | .leaf value :: rest => do
    let values ← renderValues forest style child rest
    pure (value :: values)
  | .record record :: rest =>
    match child with
    | none => .error (recordForLeaf record)
    | some type => do
      let value ← render forest style type record
      let values ← renderValues forest style child rest
      pure (value :: values)
termination_by values => (sizeOf values, 0, 0)

end

/-! ## Stored documents -/

/-- Stored documents have the slots that are not missing. -/
def stored : Rendering where
  member member slot :=
    .ok (if slot.isUndefined then [] else [(member.name, slot.toJson member.cardinality)])
  entry key slot := if slot.isUndefined then [] else [(key, slot.toJson .single)]

/-- A record of a type as it is stored. -/
def encode (forest : Forest) (type : String) (record : WireRecord) : Except WireFault Json :=
  forest.render stored type record

/-! ## Plain documents -/

/-- A slot in the form of its member. A required value that the slot does not hold is `zero`. -/
def plainForm (form : Form) (zero : Except WireFault Json) (slot : Slot Json) :
    Except WireFault Json :=
  match form with
  | .value =>
    match slot.first? with
    | some value => .ok value
    | none => zero
  | .list => .ok (.arr slot.toList)
  | .optionalValue => .ok (slot.first?.getD .null)
  | .optionalList => .ok ((slot.list?.map Json.arr).getD .null)

/-- The plain document of an empty record of a type, for definitions that stand in this order:
    what a member needs is looked for behind the record that it belongs to. -/
def zeroRecord : List Definition → String → Except WireFault Json
  | [], name => .error (.unknownType name)
  | definition :: later, name =>
    if definition.name = name then
      match definition.body with
      | .openMap => .ok (.obj [])
      | .record members => do
        let plain ← members.mapM fun member => do
          let zero := match member.element with
            | .scalar _ zero | .leaf _ zero => .ok zero
            | .compound child _ => zeroRecord later child
          let value ← plainForm member.form zero .undefined
          pure (member.name, value)
        pure (.obj plain)
      | _ => .error (.unknownType name)
    else zeroRecord later name

/-- What a required value is when its slot holds none. -/
def zeroOf (forest : Forest) : Element → Except WireFault Json
  | .scalar _ zero | .leaf _ zero => .ok zero
  | .compound child _ => zeroRecord forest.types child

/-- Plain documents have every member in its form. -/
def plain (forest : Forest) : Rendering where
  member member slot := do
    let value ← plainForm member.form (forest.zeroOf member.element) slot
    pure [(member.name, value)]
  entry key slot := [(key, .arr slot.toList)]

/-- A record of a type as a plain document. -/
def toPlain (forest : Forest) (type : String) (record : WireRecord) : Except WireFault Json :=
  forest.render forest.plain type record

end StoreSchema.Forest
