import StoreSchema.Date.Format
import StoreSchema.Schema.Metric
import StoreSchema.Types.Member

/-! # Forests of type definitions

A mapping compiles into a list of definitions in which parents stand before their children.
-/

namespace StoreSchema

/-- What a generated date type knows of its format. -/
structure DateSpec where
  /-- The format that the layouts come from. -/
  source : String
  preferred : Option String
  nanos : Bool
  format : DateFormat
  deriving Repr

/-- What is defined. -/
inductive Body where
  /-- A pair of records with the same members. -/
  | record (members : List Member)
  /-- A pair of maps with arbitrary keys. -/
  | openMap
  | date (spec : DateSpec)
  | aggregate (metrics : List Metric)
  deriving Repr

/-- A generated type or pair of types. -/
structure Definition where
  name : String
  /-- The name of the wire type; the name itself where one type serves both roles. -/
  wireName : String
  /-- The path that the name was made from, with the root first. -/
  path : List String
  kind : Kind
  body : Body
  /-- What the generated text needs in scope, in ascending order. -/
  dependencies : List String
  deriving Repr

namespace Definition

/-- Whether the definition is a pair of types. -/
def isPair (definition : Definition) : Bool :=
  match definition.body with
  | .record _ | .openMap => true
  | _ => false

/-- The members of a record; other definitions have none. -/
def members (definition : Definition) : List Member :=
  match definition.body with
  | .record members => members
  | _ => []

def member? (definition : Definition) (name : String) : Option Member :=
  definition.members.find? (·.name == name)

end Definition

/-- The definitions of one compilation, parents before children, and the name of the root. -/
structure Forest where
  root : String
  types : List Definition
  deriving Repr

namespace Forest

/-- The first definition with a name. -/
def find? (forest : Forest) (name : String) : Option Definition :=
  forest.types.find? (·.name == name)

/-- The first definition with a wire name. -/
def findWire? (forest : Forest) (wireName : String) : Option Definition :=
  forest.types.find? (·.wireName == wireName)

end Forest

/-! ## Reports -/

def DateSpec.toMembers (spec : DateSpec) : List (String × Json) :=
  [("format", .str spec.source), ("preferred", Json.ofOption .str spec.preferred),
   ("prefer_epoch", .bool spec.format.prefersEpoch), ("nanos", .bool spec.nanos),
   ("layouts", Json.ofStrings spec.format.layoutTexts),
   ("epoch", Json.ofOption (fun unit => .str unit.name) spec.format.epoch),
   ("marshal_layout", Json.ofOption (fun layout => .str layout.canonical)
     spec.format.marshalLayout)]

def Body.toJson : Body → Json
  | .record members =>
    .obj [("shape", .str "record"), ("members", .arr (members.map Member.toJson))]
  | .openMap => .obj [("shape", .str "open_map")]
  | .date spec => .obj (("shape", .str "date") :: spec.toMembers)
  | .aggregate metrics =>
    .obj
      [("shape", .str "aggregate_metric"), ("metrics", Json.ofStrings (metrics.map Metric.name))]

def Definition.toJson (definition : Definition) : Json :=
  .obj
    [("name", .str definition.name), ("wire_name", .str definition.wireName),
     ("path", Json.ofStrings definition.path), ("kind", .str definition.kind.name),
     ("body", definition.body.toJson), ("dependencies", Json.ofStrings definition.dependencies)]

def Forest.toJson (forest : Forest) : Json :=
  .obj [("root", .str forest.root), ("types", .arr (forest.types.map Definition.toJson))]

end StoreSchema
