import StoreSchema.Keyed
import StoreSchema.Schema.Dynamic
import StoreSchema.Schema.Error

/-! # The schema tree

A mapping is a tree of fields. Of a descriptor only the kind, the declared fields and the treatment
of undeclared keys are understood here; everything else is kept as it is for the leaf that it
belongs to.
-/

namespace StoreSchema

/-- A field of a mapping. Both forms carry the kind, the parameters of the descriptor and the path
    of the field. -/
inductive Node where
  | leaf (kind : Kind) (params : List (String × Json)) (path : FieldPath)
  /-- A field with fields of its own, in ascending order of their names. Without a treatment of
      undeclared keys the field inherits one. -/
  | compound (kind : Kind) (params : List (String × Json)) (path : FieldPath)
      (dynamic : Option Dynamic) (properties : List (String × Node))

/-- Declared fields by name, in ascending order. -/
abbrev Properties := List (String × Node)

namespace Node

def kind : Node → Kind
  | .leaf kind _ _ | .compound kind _ _ _ _ => kind

/-- The parameters of a field: its descriptor without `type`, `properties` and `dynamic`. -/
def params : Node → List (String × Json)
  | .leaf _ params _ | .compound _ params _ _ _ => params

def path : Node → FieldPath
  | .leaf _ _ path | .compound _ _ path _ _ => path

/-- The same field as a leaf, whatever its kind. -/
def withoutBody (node : Node) : Node :=
  .leaf node.kind node.params node.path

end Node

namespace Schema

/-- The kind that a descriptor declares; without one it describes an object. -/
def kindOf (path : FieldPath) (descriptor : List (String × Json)) : Except Error Kind :=
  match descriptor.lookup "type" with
  | none | some .null | some (.str "") => .ok .object
  | some (.str name) =>
    match Kind.ofName? name with
    | some kind => .ok kind
    | none => .error (.unknownKind name path)
  | some value => .error (.malformed path (.kindNotString value))

def paramsOf (descriptor : List (String × Json)) : List (String × Json) :=
  descriptor.filter fun (key, _) => key != "type" && key != "properties" && key != "dynamic"

/-- The treatment of undeclared keys that a descriptor declares. -/
def dynamicOf (path : FieldPath) (descriptor : List (String × Json)) :
    Except Error (Option Dynamic) :=
  match descriptor.lookup "dynamic" with
  | none | some .null => .ok none
  | some value =>
    match Dynamic.ofJson? value with
    | some dynamic => .ok (some dynamic)
    | none => .error (.malformed path (.unsupportedDynamic value))

mutual

/-- The field that a descriptor found at a path describes. -/
def node (path : FieldPath) : Json → Except Error Node
  | .obj descriptor => do
    let kind ← kindOf path descriptor
    if kind.isCompound then
      let dynamic ← dynamicOf path descriptor
      let fields ← declared path descriptor
      pure (.compound kind (paramsOf descriptor) path dynamic fields)
    else if (descriptor.lookup "properties").isSome then
      .error (.malformed path (.propertiesOfLeaf kind))
    else
      pure (.leaf kind (paramsOf descriptor) path)
  | _ => .error (.malformed path .descriptorNotObject)

/-- The fields that a compound descriptor declares. -/
def declared (path : FieldPath) : List (String × Json) → Except Error Properties
  | [] => .ok []
  | (key, value) :: rest =>
    if key = "properties" then
      match value with
      | .null => .ok []
      | .obj fields => properties path fields
      | _ => .error (.malformed path .propertiesNotObject)
    else declared path rest

/-- The fields of a property map, read in the order of the document and kept in ascending order. -/
def properties (parent : FieldPath) : List (String × Json) → Except Error Properties
  | [] => .ok []
  | (name, descriptor) :: rest => do
    let first ← node (parent ++ [name]) descriptor
    let others ← properties parent rest
    pure (Keyed.insert name first others)

end

end Schema

end StoreSchema
