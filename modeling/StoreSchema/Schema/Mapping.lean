import StoreSchema.Json.Reader
import StoreSchema.Schema.Node

/-! # Mapping documents

A mapping comes bare, under `properties`, under `mappings`, or under the name of an index as the
store reports it. The wrappers are told from fields of the same names by their content.
-/

namespace StoreSchema

/-- The declared fields at the top of a mapping, and the name of the index if the document has
    one. -/
structure Mapping where
  indexName : Option String
  properties : Properties

namespace Mapping

/-- Whether a value is the body of a mapping rather than a field descriptor: it declares fields and
    has no kind. -/
def holdsProperties : Json → Bool
  | .obj members =>
    (members.lookup "type").isNone && ((members.lookup "properties").map Json.isObject).getD false
  | _ => false

/-- The fields that the body of a mapping declares. -/
def bodyFields : Json → Except Schema.Error Properties
  | .obj members =>
    match members.lookup "properties" with
    | some (.obj fields) => Schema.properties [] fields
    | none | some .null => .ok []
    | some _ => .error (.malformed [] .mappedPropertiesNotObject)
  | _ => .ok []

/-- The wrapper around a property map, if the document is one. -/
inductive Wrapper where
  /-- No wrapper: every member is a field. -/
  | bare (fields : List (String × Json))
  /-- The one member `properties`. -/
  | underProperties (fields : List (String × Json))
  /-- The one member `mappings`. -/
  | underMappings (body : Json)
  /-- One member named for the index. -/
  | underIndex (name : String) (body : Json)

/-- The body of the mapping of an index, if a value holds one and is no field descriptor. -/
def indexBody? : Json → Option Json
  | .obj members =>
    if (members.lookup "type").isSome || (members.lookup "properties").isSome then none
    else (members.lookup "mappings").filter holdsProperties
  | _ => none

/-- How a document wraps its property map. -/
def wrapperOf : List (String × Json) → Wrapper
  | [(key, value)] =>
    if key = "mappings" ∧ holdsProperties value then .underMappings value
    else
      match key, value with
      | "properties", .obj fields =>
        if (fields.lookup "type").isNone && fields.all (·.2.isObject) then .underProperties fields
        else
          match indexBody? value with
          | some body => .underIndex key body
          | none => .bare [(key, value)]
      | _, _ =>
        match indexBody? value with
        | some body => .underIndex key body
        | none => .bare [(key, value)]
  | fields => .bare fields

/-- The mapping that a document writes out. -/
def ofJson : Json → Except Schema.Error Mapping
  | .obj members =>
    match wrapperOf members with
    | .bare fields | .underProperties fields => do
      let properties ← Schema.properties [] fields
      pure ⟨none, properties⟩
    | .underMappings body => do
      let properties ← bodyFields body
      pure ⟨none, properties⟩
    | .underIndex name body => do
      let properties ← bodyFields body
      pure ⟨some name, properties⟩
  | _ => .error (.malformed [] .documentNotObject)

def ofText (text : String) : Except Schema.Error Mapping :=
  match Json.ofText? text with
  | some document => ofJson document
  | none => .error (.malformed [] .invalidText)

end Mapping

end StoreSchema
