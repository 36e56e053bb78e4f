import StoreSchema.Policy.Cascade
import StoreSchema.Policy.Overrides
import StoreSchema.Schema.Kind

/-! # Preferences for everything

The general layer and the layers by kind, and the preferences that they give to a field.
-/

namespace StoreSchema

/-- The general layer, and the layers of the kinds in the order of the kinds. -/
structure GlobalPolicy where
  layer : Layer := {}
  byKind : List (Kind × Layer) := []
  deriving Repr, DecidableEq

namespace GlobalPolicy

/-- The effective preferences of a field of a kind. -/
def resolve (policy : GlobalPolicy) (kind : Kind) (field : Option FieldPolicy) : Policy :=
  Policy.overlay policy.layer (policy.byKind.lookup kind) (field.map FieldPolicy.layer)

/-- Opinionated layers by kind: numbers, dates, truth values and binaries are single, objects and
    nested fields are required lists, and shapes and completions are lists. -/
def opinionated : List (Kind × Layer) :=
  let single : Layer := { single := .on }
  let many : Layer := { single := .off }
  let requiredMany : Layer := { required := .on, single := .off }
  Kind.all.filterMap fun kind =>
    match kind with
    | .aggregateMetricDouble | .binary | .boolean | .date | .dateNanos | .long | .integer | .short
    | .byte | .double | .float | .halfFloat | .scaledFloat | .unsignedLong => some (kind, single)
    | .completion | .geoPoint | .geoShape | .point => some (kind, many)
    | .object | .nested => some (kind, requiredMany)
    | _ => none

def readKind (name : String) : Decoding.Result Kind :=
  match Kind.ofName? name with
  | some kind => .ok kind
  | none => Decoding.fail (.unknownChoice name (Kind.all.map Kind.name))

def readByKind (delivery : Decoding.Delivery) : Document → Decoding.Result (List (Kind × Layer))
  | .obj members ending => do
    let layers ← Decoding.entriesWith (fun _ => .unnamed) readKind (Layer.read delivery)
      Keyed.insert [] members
    if ending = .closed then pure layers else Decoding.fail .ungrammatical
  | other => Decoding.fail (Decoding.mismatch other "a map")

/-- Reads the preferences for everything. The layers by kind stand in the same object as the
    general layer. -/
def read (delivery : Decoding.Delivery) : Document → Decoding.Result GlobalPolicy
  | .obj members ending => do
    let byKind := Decoding.field "type_option" (readByKind delivery)
      fun layers (read : List (Kind × Layer) × List (String × Json)) => (layers, read.2)
    let (layers, entries) ← Decoding.membersWith [byKind]
      (fun name content read => do
        let value ← Decoding.anyValue content
        pure (read.1, read.2 ++ [(name, value)]))
      [] ([], []) members
    if ending = .closed then
      let layer ← Layer.readShared entries
      pure ⟨layer, layers⟩
    else Decoding.fail .ungrammatical
  | other => Decoding.fail (Decoding.mismatch other "struct GlobalOption")

def toJson (policy : GlobalPolicy) : Json :=
  .obj (policy.layer.toMembers ++
    [("type_option", .obj (policy.byKind.map fun (kind, layer) => (kind.name, layer.toJson)))])

end GlobalPolicy

end StoreSchema
