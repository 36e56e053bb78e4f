import StoreSchema.Keyed
import StoreSchema.Policy.Layer

/-! # Overrides by field

A tree of layers beside the tree of fields: the overrides of a compound field hold those of its
children.
-/

namespace StoreSchema

/-- The layer of a field and the overrides of its children, in ascending order of their names. -/
inductive FieldPolicy where
  | mk (layer : Layer) (children : List (String × FieldPolicy))

/-- Overrides by field name, in ascending order. -/
abbrev Overrides := List (String × FieldPolicy)

namespace FieldPolicy

def layer : FieldPolicy → Layer
  | .mk layer _ => layer

def children : FieldPolicy → Overrides
  | .mk _ children => children

end FieldPolicy

mutual

/-- Reads the overrides of a field. The children stand in the same object as the layer. -/
def FieldPolicy.read : Document → Decoding.Result FieldPolicy
  | .obj members ending => do
    let (children, entries) ← FieldPolicy.readMembers none [] members
    if ending = .closed then
      let layer ← Layer.readShared entries
      pure (.mk layer (children.getD []))
    else Decoding.fail .ungrammatical
  | other => Decoding.fail (Decoding.mismatch other "struct FieldOption")

/-- The children among the members of an object, and the other members as values. -/
def FieldPolicy.readMembers (children : Option Overrides) (entries : List (String × Json)) :
    List (Option String × Document) → Decoding.Result (Option Overrides × List (String × Json))
  | [] => .ok (children, entries)
  | (none, _) :: _ => Decoding.fail .ungrammatical
  | (some name, content) :: rest =>
    if name = "children" then
      if children.isSome then Decoding.fail (.repeatedField name)
      else do
        let overrides ← Decoding.within (.key name) (Overrides.read content)
        FieldPolicy.readMembers (some overrides) entries rest
    else do
      let value ← Decoding.within (.key name) (Decoding.anyValue content)
      FieldPolicy.readMembers children (entries ++ [(name, value)]) rest

/-- Reads overrides by field name. A repeated name keeps its last overrides. -/
def Overrides.read : Document → Decoding.Result Overrides
  | .obj members ending => do
    let overrides ← Overrides.readEntries [] members
    if ending = .closed then pure overrides else Decoding.fail .ungrammatical
  | other => Decoding.fail (Decoding.mismatch other "a map")

def Overrides.readEntries (before : Overrides) :
    List (Option String × Document) → Decoding.Result Overrides
  | [] => .ok before
  | (none, _) :: _ => Decoding.fail .ungrammatical
  | (some name, content) :: rest => do
    let field ← Decoding.within (.key name) (FieldPolicy.read content)
    Overrides.readEntries (Keyed.insert name field before) rest

end

mutual

def FieldPolicy.toJson : FieldPolicy → Json
  | .mk layer children =>
    .obj (layer.toMembers ++ [("children", .obj (Overrides.toMembers children))])

def Overrides.toMembers : List (String × FieldPolicy) → List (String × Json)
  | [] => []
  | (name, field) :: rest => (name, field.toJson) :: Overrides.toMembers rest

end

def Overrides.toJson (overrides : Overrides) : Json :=
  .obj (Overrides.toMembers overrides)

end StoreSchema
