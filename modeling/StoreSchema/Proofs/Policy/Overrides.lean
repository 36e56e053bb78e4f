import StoreSchema.Policy.Overrides
import StoreSchema.Proofs.Keyed
import StoreSchema.Proofs.Policy.Layers

/-! # Saved overrides

Overrides are read back at every depth if their flags are spelled in a way in which they are read.
-/

namespace StoreSchema

/-! ## Order -/

/-- The children of a field stand in the order of their names, at every depth. -/
inductive FieldPolicy.Ordered : FieldPolicy → Prop where
  | mk {layer : Layer} {children : Overrides} (ascending : Keyed.Ascending children)
      (each : ∀ entry ∈ children, entry.2.Ordered) : Ordered (.mk layer children)

theorem FieldPolicy.ordered_childless (layer : Layer) : (FieldPolicy.mk layer []).Ordered :=
  .mk .nil (List.forall_mem_nil _)

/-- Overrides stand in the order of the names of their fields, at every depth. -/
structure Overrides.Ordered (overrides : Overrides) : Prop where
  ascending : Keyed.Ascending overrides
  each : ∀ entry ∈ overrides, entry.2.Ordered

/-! ## Spellings -/

mutual

/-- The overrides of a field as they are saved, with their flags in a spelling. -/
def FieldPolicy.toJsonWith (spell : Flag → Json) : FieldPolicy → Json
  | .mk layer children =>
    .obj (layer.toMembersWith spell ++
      [("children", .obj (Overrides.toMembersWith spell children))])

def Overrides.toMembersWith (spell : Flag → Json) :
    List (String × FieldPolicy) → List (String × Json)
  | [] => []
  | (name, field) :: rest => (name, field.toJsonWith spell) :: Overrides.toMembersWith spell rest

end

mutual

theorem FieldPolicy.toJson_eq : (field : FieldPolicy) → field.toJson = field.toJsonWith Flag.saved
  | .mk layer children => by
    rw [FieldPolicy.toJson, FieldPolicy.toJsonWith, Layer.toMembers_eq, Overrides.toMembers_eq]

theorem Overrides.toMembers_eq : (overrides : List (String × FieldPolicy)) →
    Overrides.toMembers overrides = Overrides.toMembersWith Flag.saved overrides
  | [] => rfl
  | (name, field) :: rest => by
    rw [Overrides.toMembers, Overrides.toMembersWith, FieldPolicy.toJson_eq, Overrides.toMembers_eq]

end

/-! ## Reading back -/

theorem FieldPolicy.readMembers_putAside {entries : List (String × Json)}
    (children : Option Overrides) (before : List (String × Json))
    (rest : List (Option String × Document)) (foreign : ∀ entry ∈ entries, "children" ≠ entry.1)
    (plain : ∀ entry ∈ entries, Decoding.anyValue (.ofJson entry.2) = .ok entry.2) :
    FieldPolicy.readMembers children before (Document.ofMembers entries ++ rest) =
      FieldPolicy.readMembers children (before ++ entries) rest := by
  induction entries generalizing before with
  | nil => simp [Document.ofMembers]
  | cons entry entries ih =>
      obtain ⟨name, value⟩ := entry
      obtain ⟨notHere, notLater⟩ := List.forall_mem_cons.mp foreign
      obtain ⟨here, later⟩ := List.forall_mem_cons.mp plain
      rw [Document.ofMembers, List.cons_append, FieldPolicy.readMembers, if_neg notHere.symm, here,
        Decoding.within_ok, Outcome.ok_bind, ih (before ++ [(name, value)]) notLater later,
        List.append_assoc, List.singleton_append]

variable {spell : Flag → Json}

mutual

theorem FieldPolicy.read_written (readable : Flag.Readable spell) :
    (field : FieldPolicy) → (ordered : field.Ordered) →
    FieldPolicy.read (.ofJson (field.toJsonWith spell)) = .ok field
  | .mk layer children, .mk ascending each => by
    -- The layer is written before the children, so all its members are aside when they are read.
    have below := Overrides.readEntries_written readable [] children ascending each
    have aside := FieldPolicy.readMembers_putAside none []
      (Document.ofMembers [("children", .obj (Overrides.toMembersWith spell children))])
      (layer.notMem_toMembersWith (by decide)) (layer.anyValue_toMembersWith readable.plain)
    have last : FieldPolicy.readMembers none (layer.toMembersWith spell)
        (Document.ofMembers [("children", .obj (Overrides.toMembersWith spell children))]) =
          .ok (some children, layer.toMembersWith spell) := by
      simp only [Document.ofMembers, Document.ofJson, FieldPolicy.readMembers, Overrides.read,
        below, if_true, Outcome.ok_bind]
      rfl
    rw [FieldPolicy.toJsonWith, Document.ofJson, Document.ofMembers_append, FieldPolicy.read,
      aside, List.nil_append, last, Outcome.ok_bind]
    simp only [if_true, Layer.readShared_written readable, Outcome.ok_bind]
    rfl

theorem Overrides.readEntries_written (readable : Flag.Readable spell) (before : Overrides) :
    (overrides : List (String × FieldPolicy)) →
    (ascending : Keyed.Ascending (before ++ overrides)) →
    (each : ∀ entry ∈ overrides, entry.2.Ordered) →
    Overrides.readEntries before (Document.ofMembers (Overrides.toMembersWith spell overrides)) =
      .ok (before ++ overrides)
  | [], _, _ => by
    rw [List.append_nil]
    rfl
  | (name, field) :: rest, ascending, each => by
    obtain ⟨here, later⟩ := List.forall_mem_cons.mp each
    have above : ∀ other ∈ before.map Prod.fst, other < name := by
      intro other inside
      rw [Keyed.Ascending, List.map_append, List.pairwise_append] at ascending
      exact ascending.2.2 other inside name List.mem_cons_self
    have appended : before ++ (name, field) :: rest = (before ++ [(name, field)]) ++ rest := by
      simp
    have onward := Overrides.readEntries_written readable (before ++ [(name, field)]) rest
      (appended ▸ ascending) later
    rw [Overrides.toMembersWith, Document.ofMembers, Overrides.readEntries,
      FieldPolicy.read_written readable field here, Decoding.within_ok, Outcome.ok_bind,
      Keyed.insert_of_above field above, onward, appended]

end

theorem Overrides.read_written (readable : Flag.Readable spell) {overrides : Overrides}
    (ordered : overrides.Ordered) :
    Overrides.read (.ofJson (.obj (Overrides.toMembersWith spell overrides))) = .ok overrides := by
  rw [Document.ofJson, Overrides.read,
    Overrides.readEntries_written readable [] overrides ordered.ascending ordered.each]
  rfl

end StoreSchema
