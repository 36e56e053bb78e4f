import StoreSchema.Proofs.Naming.Reserved
import StoreSchema.Proofs.Types.Identifiers

/-! # Reserved words in a forest

Under the default naming strategy the reserved words among the identifiers of a forest are just the
names of fields that are called like a word which is not marked, and the one reserved word among the
names of types is that of a field whose own word it is.
-/

namespace StoreSchema

open Naming (reservedWords missedWords unmarkableWords snakeCase typeWord)

/-- Where the identifiers and names of a definition meet reserved words. -/
structure MeetsReserved (definition : Definition) : Prop where
  ident : ∀ word ∈ reservedWords, word ∈ definition.members.map Member.ident ↔
    word ∈ missedWords ∧ word ∈ definition.members.map fun member => snakeCase member.name
  /-- A word that stays reserved behind a mark is never marked. -/
  marked : ∀ word ∈ unmarkableWords, "r#" ++ word ∉ definition.members.map Member.ident
  name : definition.name ∈ reservedWords → definition.name = "Self" ∧
    ∃ above last, definition.path = above ++ [last] ∧ typeWord last = "Self"
  wireName : definition.wireName ∈ reservedWords → definition.wireName = definition.name

theorem reserved_words_met {config : Config} (unconfigured : config.naming = {}) {root : String}
    {properties : Properties} {forest : Forest}
    (compiled : Forest.ofProperties config root properties = .ok forest) :
    ∀ definition ∈ forest.types, MeetsReserved definition := by
  intro definition inside
  have made := Forest.made compiled definition inside
  have idents := made.origin.idents
  have names : (definition.members.map fun member => snakeCase member.name) =
      (definition.members.map Member.name).map snakeCase := by
    rw [List.map_map]
    rfl
  obtain ⟨⟨before, after, given⟩, wire⟩ := made.named
  rw [unconfigured] at given wire
  refine ⟨?_, ?_, ?_, ?_⟩
  · intro word reserved
    rw [idents, names]
    exact Naming.reserved_mem_uniqueIdents_iff _ reserved
  · intro word unmarkable
    rw [idents]
    exact Naming.marked_notMem_uniqueIdents _ unmarkable
  · intro reserved
    obtain ⟨chosen, -⟩ := Naming.Registry.generate_eq_ok_iff.mp given
    obtain ⟨place, first⟩ := Naming.Registry.choose_eq_ok_iff.mp chosen
    exact Naming.proposal_reserved first.proposed reserved
  · intro reserved
    cases wire with
    | inl twin => exact absurd (twin ▸ reserved) (Naming.wireName_not_reserved _)
    | inr own => exact own

theorem sample_reserved_words_met :
    Forest.ofProperties {} "doc" Sample.typed =
        .ok ⟨"Doc", [Sample.typedRoot [("Type", "r#type"), ("type", "r#type_1")]]⟩ ∧
      MeetsReserved (Sample.typedRoot [("Type", "r#type"), ("type", "r#type_1")]) ∧
      ∀ ident ∈ ["r#type", "r#type_1"], ident ∉ reservedWords := by
  have meets := reserved_words_met rfl Sample.typed_compiled _ (List.mem_singleton_self _)
  refine ⟨Sample.typed_compiled, meets, ?_⟩
  intro ident inside reserved
  obtain ⟨missed, -⟩ := (meets.ident ident reserved).mp inside
  revert ident
  decide +kernel

namespace Sample

/-- A text with the name of a word that is not marked, and a record whose own word is reserved. -/
def abstracted : Properties :=
  [("abstract", .leaf .keyword [] ["abstract"]), ("self", .compound .object [] ["self"] none [])]

def abstractedRoot : Definition where
  name := "Doc"
  wireName := "DocRaw"
  path := ["doc"]
  kind := .object
  body := .record
    [⟨"abstract", "abstract", .keyword, {}, .scalar "String" (.str ""), .optionalList, .array⟩,
     ⟨"self", "self", .object, {}, .compound "Self" "SelfRaw", .optionalList, .array⟩]
  dependencies := [Compile.fieldScope, Compile.recordScope]

def selfRecord : Definition where
  name := "Self"
  wireName := "SelfRaw"
  path := ["doc", "self"]
  kind := .object
  body := .record []
  dependencies := [Compile.fieldScope, Compile.recordScope]

theorem abstracted_compiled : Forest.ofProperties {} "doc" abstracted =
    .ok ⟨"Doc", [abstractedRoot, selfRecord]⟩ := by
  with_unfolding_all rfl

end Sample

/-- Reserved words become identifiers without a mark, and the name of a type. -/
theorem sample_reserved_words_stay :
    ∃ forest definition other, Forest.ofProperties {} "doc" Sample.abstracted = .ok forest ∧
      definition ∈ forest.types ∧ other ∈ forest.types ∧
      definition.members.map Member.ident = ["abstract", "self"] ∧ other.name = "Self" ∧
      ∀ word ∈ ["abstract", "self", "Self"], word ∈ reservedWords :=
  ⟨_, Sample.abstractedRoot, Sample.selfRecord, Sample.abstracted_compiled, List.mem_cons_self,
    List.mem_cons_of_mem _ List.mem_cons_self, rfl, rfl, by decide⟩

end StoreSchema
