import StoreSchema.Proofs.Keyed
import StoreSchema.Proofs.Outcome
import StoreSchema.Wire.Render

/-! # Rendering member by member

A record is rendered where each of its members is, and the outcome is what the members become one
after the other. Slots of leaves are rendered as they are.
-/

namespace StoreSchema

theorem Keyed.lookup_flatMap {α β : Type} {name : α → String} {part : α → List (String × β)}
    {owners : List α} (once : (owners.map name).Nodup)
    (own : ∀ owner ∈ owners, ∀ entry ∈ part owner, entry.1 = name owner) {owner : α}
    (inside : owner ∈ owners) :
    (owners.flatMap part).lookup (name owner) = (part owner).lookup (name owner) := by
  induction owners with
  | nil => simp at inside
  | cons first rest ih =>
      obtain ⟨absent, restOnce⟩ := List.nodup_cons.mp once
      obtain ⟨firstOwn, restOwn⟩ := List.forall_mem_cons.mp own
      rw [List.flatMap_cons, List.lookup_append]
      cases List.mem_cons.mp inside with
      | inl same =>
          subst same
          have later : (rest.flatMap part).lookup (name owner) = none := by
            refine Keyed.lookup_eq_none_of_not_mem fun member => absent ?_
            obtain ⟨entry, found, key⟩ := List.mem_map.mp member
            obtain ⟨other, present, inPart⟩ := List.mem_flatMap.mp found
            exact List.mem_map.mpr ⟨other, present, (restOwn other present entry inPart) ▸ key⟩
          rw [later, Option.or_none]
      | inr later =>
          have earlier : (part first).lookup (name owner) = none := by
            refine Keyed.lookup_eq_none_of_not_mem fun member => absent ?_
            obtain ⟨entry, found, key⟩ := List.mem_map.mp member
            have sameName : name first = name owner := (firstOwn entry found) ▸ key
            exact sameName ▸ List.mem_map_of_mem later
          rw [earlier, Option.none_or]
          exact ih restOnce restOwn later

namespace Forest

variable {forest : Forest} {style : Rendering} {type : String}

theorem definition_ok {definition : Definition} (found : forest.find? type = some definition) :
    forest.definition type = .ok definition := by
  rw [Forest.definition, found]

/-- What the slot of a member becomes. -/
def renderMember (forest : Forest) (style : Rendering) (record : WireRecord) (member : Member) :
    Except WireFault (List (String × Json)) := do
  let slot ← renderSlot forest style member.child? ((record.lookup member.name).getD .undefined)
  style.member member slot

theorem renderMembers_cons (record : WireRecord) (member : Member) (rest : List Member) :
    renderMembers forest style record (member :: rest) = (do
      let first ← renderMember forest style record member
      let members ← renderMembers forest style record rest
      pure (first ++ members)) := by
  rw [renderMembers, renderMember]
  split
  next absent => simp [absent, renderSlot]
  next slot found => simp [found]

theorem renderMembers_ok {record : WireRecord} {members : List Member}
    {part : Member → List (String × Json)}
    (each : ∀ member ∈ members, renderMember forest style record member = .ok (part member)) :
    renderMembers forest style record members = .ok (members.flatMap part) := by
  induction members with
  | nil => rw [renderMembers, List.flatMap_nil]
  | cons member rest ih =>
      obtain ⟨first, later⟩ := List.forall_mem_cons.mp each
      rw [renderMembers_cons, first, ih later]
      rfl

theorem renderValues_leaves (forest : Forest) (style : Rendering) (child : Option String)
    (items : List Json) :
    renderValues forest style child (items.map .leaf) = .ok items := by
  induction items with
  | nil => rw [List.map_nil, renderValues]
  | cons item rest ih =>
      rw [List.map_cons, renderValues, ih]
      rfl

end Forest

end StoreSchema
