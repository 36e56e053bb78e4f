import StoreSchema.Proofs.Naming.Identifiers
import StoreSchema.Proofs.Types.Definitions
import StoreSchema.Proofs.Types.Mirror

/-! # Identifiers in a forest

The members of every record of a forest have the identifiers of the names of their fields, in the
order of the fields. So they are distinct texts, and they are distinct identifiers unless a keyword
that has a number behind it meets a field of that name.
-/

namespace StoreSchema

namespace Compile

theorem membersOf_names (fields : List Child) :
    (membersOf fields).map Member.name = fields.map Child.name :=
  (Lists.map_eq_map (fun _ _ becomes => becomes.name.symm) (membersOf_become fields)).symm

theorem membersOf_idents (fields : List Child) :
    (membersOf fields).map Member.ident = Naming.uniqueIdents (fields.map Child.name) := by
  have lengths : (Naming.uniqueIdents (fields.map Child.name)).length ≤ fields.length := by
    rw [length_uniqueIdents, List.length_map]
  rw [membersOf, List.map_map]
  exact List.map_snd_zip lengths

theorem Origin.idents {definition : Definition} (origin : Origin definition) :
    definition.members.map Member.ident =
      Naming.uniqueIdents (definition.members.map Member.name) := by
  cases origin with
  | record name wireName path kind fields =>
      rw [recordDefinition, Definition.members]
      dsimp only
      rw [membersOf_idents, membersOf_names]
  | openMap => rfl
  | @leaf name path kind _ _ _ type planned =>
      have none : Definition.members ⟨name, name, path, kind, type.body, type.dependencies⟩ = [] :=
        (planLeaf_fits planned).2.no_members
      rw [none]
      rfl

end Compile

/-- The members of a record are distinct as texts, and as identifiers just where no field has the
    name of a keyword with a number behind it that another field takes. -/
theorem member_idents_distinct {config : Config} {root : String} {properties : Properties}
    {forest : Forest} (compiled : Forest.ofProperties config root properties = .ok forest)
    {definition : Definition} (inside : definition ∈ forest.types) :
    (definition.members.map Member.ident).Nodup ∧
      ((definition.members.map fun member => Naming.bareIdent member.ident).Nodup ↔
        Naming.KeywordsApart (definition.members.map Member.name)) := by
  have idents := (Forest.origin compiled definition inside).idents
  have bare : (definition.members.map fun member => Naming.bareIdent member.ident) =
      (definition.members.map Member.ident).map Naming.bareIdent := by
    rw [List.map_map]
    rfl
  rw [bare, idents]
  exact ⟨Naming.nodup_uniqueIdents _, Naming.nodup_bareIdent_iff _⟩

namespace Sample

/-- Two fields that are called like a keyword. -/
def typed : Properties :=
  [("Type", .leaf .keyword [] ["Type"]), ("type", .leaf .keyword [] ["type"])]

/-- The same fields, and one that has the name of the keyword with a number. -/
def typedTwice : Properties :=
  typed ++ [("type_1", .leaf .keyword [] ["type_1"])]

/-- A record at the root with members of keywords. -/
def typedRoot (idents : List (String × String)) : Definition where
  name := "Doc"
  wireName := "DocRaw"
  path := ["doc"]
  kind := .object
  body := .record (idents.map fun (name, ident) =>
    ⟨name, ident, .keyword, {}, .scalar "String" (.str ""), .optionalList, .array⟩)
  dependencies := [Compile.fieldScope, Compile.recordScope]

theorem typed_compiled : Forest.ofProperties {} "doc" typed =
    .ok ⟨"Doc", [typedRoot [("Type", "r#type"), ("type", "r#type_1")]]⟩ := by
  with_unfolding_all rfl

set_option maxRecDepth 2000 in
theorem typedTwice_compiled : Forest.ofProperties {} "doc" typedTwice =
    .ok ⟨"Doc",
      [typedRoot [("Type", "r#type"), ("type", "r#type_1"), ("type_1", "type_1")]]⟩ := by
  with_unfolding_all rfl

end Sample

theorem sample_member_idents_distinct :
    Forest.ofProperties {} "doc" Sample.typed =
        .ok ⟨"Doc", [Sample.typedRoot [("Type", "r#type"), ("type", "r#type_1")]]⟩ ∧
      ["r#type", "r#type_1"].Nodup ∧ Naming.KeywordsApart ["Type", "type"] := by
  have distinct := member_idents_distinct Sample.typed_compiled (List.mem_singleton_self _)
  exact ⟨Sample.typed_compiled, distinct.1, distinct.2.mp (by decide)⟩

/-- Two members of one record can have the same identifier. -/
theorem sample_member_idents_meet :
    ∃ forest definition, Forest.ofProperties {} "doc" Sample.typedTwice = .ok forest ∧
      definition ∈ forest.types ∧
      definition.members.map Member.ident = ["r#type", "r#type_1", "type_1"] ∧
      (definition.members.map fun member => Naming.bareIdent member.ident) =
        ["type", "type_1", "type_1"] ∧
      ¬ (definition.members.map fun member => Naming.bareIdent member.ident).Nodup :=
  ⟨_, _, Sample.typedTwice_compiled, List.mem_singleton_self _, rfl, by decide, by decide⟩

end StoreSchema
