import StoreSchema.Policy.Cascade
import StoreSchema.Types.Target

/-! # Members of generated records

A member pairs a field with the type of its elements and with the shapes in which the plain and
the wire record hold them.
-/

namespace StoreSchema

/-- How the plain record holds the elements of a member. -/
inductive Form where
  | value
  | list
  | optionalValue
  | optionalList
  deriving Repr, DecidableEq

namespace Form

/-- The form that preferences ask for. -/
def ofPolicy (policy : Policy) : Form :=
  match policy.required, policy.single with
  | true, true => .value
  | true, false => .list
  | false, true => .optionalValue
  | false, false => .optionalList

/-- Whether a member without elements is present all the same. -/
def isRequired : Form → Bool
  | .value | .list => true
  | _ => false

/-- Whether a member holds one element only. -/
def isSingle : Form → Bool
  | .value | .optionalValue => true
  | _ => false

def name : Form → String
  | .value => "value"
  | .list => "list"
  | .optionalValue => "optional_value"
  | .optionalList => "optional_list"

/-- The type of a member with elements of a type. -/
def typeText (form : Form) (element : String) : String :=
  match form with
  | .value => element
  | .list => "Vec<" ++ element ++ ">"
  | .optionalValue => "Option<" ++ element ++ ">"
  | .optionalList => "Option<Vec<" ++ element ++ ">>"

end Form

/-- How the wire form writes a list of one element. -/
inductive Cardinality where
  /-- As the element. -/
  | single
  /-- As a list. -/
  | array
  deriving Repr, DecidableEq

namespace Cardinality

/-- The cardinality that preferences ask for. -/
def ofPolicy (policy : Policy) : Cardinality :=
  if policy.single then .single else .array

def name : Cardinality → String
  | .single => "single"
  | .array => "array"

end Cardinality

/-- The type of the elements of a member. -/
inductive Element where
  /-- A type that exists already. -/
  | scalar (type : String) (zero : Json)
  /-- A generated type that serves plain and wire records alike. -/
  | leaf (name : String) (zero : Json)
  /-- A generated pair of record types. -/
  | compound (plain wire : String)
  deriving Repr

namespace Element

/-- The name of the type in plain records. -/
def plain : Element → String
  | .scalar type _ => type
  | .leaf name _ => name
  | .compound plain _ => plain

/-- The name of the type in wire records. -/
def wire : Element → String
  | .scalar type _ => type
  | .leaf name _ => name
  | .compound _ wire => wire

/-- Whether elements are converted one by one between the plain and the wire record. -/
def isNested : Element → Bool
  | .compound _ _ => true
  | _ => false

def toJson : Element → Json
  | .scalar type zero => .obj [("type", .str "scalar"), ("rust", .str type), ("zero", zero)]
  | .leaf name zero => .obj [("type", .str "leaf"), ("name", .str name), ("zero", zero)]
  | .compound plain wire =>
    .obj [("type", .str "compound"), ("plain", .str plain), ("wire", .str wire)]

end Element

/-- A member of a record: its key in documents, its identifier, the type of its elements, and how
    the plain and the wire record hold them. -/
structure Member where
  name : String
  ident : String
  kind : Kind
  policy : Policy
  element : Element
  form : Form
  cardinality : Cardinality
  deriving Repr

namespace Member

def plainType (member : Member) : String :=
  member.form.typeText member.element.plain

def wireType (member : Member) : String :=
  "Field<" ++ member.element.wire ++ ">"

def toJson (member : Member) : Json :=
  .obj
    [("name", .str member.name), ("ident", .str member.ident), ("kind", .str member.kind.name),
     ("option", member.policy.toJson), ("elem", member.element.toJson),
     ("form", .str member.form.name), ("cardinality", .str member.cardinality.name)]

end Member

end StoreSchema
