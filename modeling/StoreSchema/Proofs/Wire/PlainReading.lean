import StoreSchema.Proofs.Keyed
import StoreSchema.Proofs.Outcome
import StoreSchema.Wire.OfPlain

/-! # How plain documents are read

What a successful reading says about a record: where its slots come from, and in which of the few
ways each of them was read.
-/

namespace StoreSchema.Forest

variable {forest : Forest} {path type : String} {member : Member}

/-! ## Reading members -/

theorem ofPlainMembers_cons (entries : List (String × Json)) (rest : List Member) :
    ofPlainMembers forest path entries (member :: rest) = (do
      let slot ← ofPlainSlot forest (WireFault.below path member.name) member
        ((entries.lookup member.name).getD .null)
      let record ← ofPlainMembers forest path entries rest
      pure (addSlot member.name slot record)) := by
  rw [ofPlainMembers]
  split
  next absent => rw [absent, Option.getD_none, ofPlainSlot]
  next value found => simp only [found, Option.getD_some]

theorem lookup_addSlot (slot : Slot WireValue) (record : WireRecord) (key name : String) :
    (addSlot key slot record).lookup name =
      if name = key ∧ slot.isUndefined = false then some slot else record.lookup name := by
  unfold addSlot
  cases absent : slot.isUndefined with
  | true => simp
  | false => simp [Keyed.lookup_insert]

theorem ofPlainMembers_ok {entries : List (String × Json)} {members : List Member}
    {record : WireRecord} (once : (members.map Member.name).Nodup)
    (read : ofPlainMembers forest path entries members = .ok record) :
    (∀ name ∉ members.map Member.name, record.lookup name = none) ∧
      ∀ member ∈ members, ∃ slot,
        ofPlainSlot forest (WireFault.below path member.name) member
          ((entries.lookup member.name).getD .null) = .ok slot ∧
        record.lookup member.name = if slot.isUndefined then none else some slot := by
  induction members generalizing record with
  | nil =>
      rw [ofPlainMembers] at read
      cases read
      simp
  | cons member rest ih =>
      obtain ⟨absent, restOnce⟩ := List.nodup_cons.mp once
      rw [ofPlainMembers_cons] at read
      obtain ⟨slot, slotRead, read⟩ := Outcome.bind_eq_ok.mp read
      obtain ⟨others, othersRead, read⟩ := Outcome.bind_eq_ok.mp read
      cases Outcome.pure_eq_ok.mp read
      obtain ⟨undeclared, declared⟩ := ih restOnce othersRead
      refine ⟨fun name outside => ?_, List.forall_mem_cons.mpr ⟨⟨slot, slotRead, ?_⟩, ?_⟩⟩
      · rw [List.map_cons, List.mem_cons, not_or] at outside
        rw [lookup_addSlot, if_neg fun both => outside.1 both.1]
        exact undeclared name outside.2
      · rw [lookup_addSlot, undeclared member.name absent]
        cases slot.isUndefined <;> simp
      · intro other inside
        obtain ⟨value, valueRead, held⟩ := declared other inside
        refine ⟨value, valueRead, ?_⟩
        have different : other.name ≠ member.name :=
          fun same => absent (same ▸ List.mem_map_of_mem inside)
        rw [lookup_addSlot, if_neg fun both => different both.1]
        exact held

theorem ofPlainItems_leaves {items : List Json} {values : List WireValue}
    (read : ofPlainItems forest path none items = .ok values) : values = items.map .leaf := by
  induction items generalizing values with
  | nil =>
      rw [ofPlainItems] at read
      cases read
      rfl
  | cons item rest ih =>
      rw [ofPlainItems, ofPlainValue, Outcome.ok_bind] at read
      obtain ⟨others, othersRead, read⟩ := Outcome.bind_eq_ok.mp read
      cases Outcome.pure_eq_ok.mp read
      rw [List.map_cons, ih othersRead]

/-- The ways in which a slot is read: an optional member may be `null`, a single one is one value,
    any other a list. -/
inductive SlotRead (forest : Forest) (path : String) (member : Member) :
    Json → Slot WireValue → Prop where
  | absent (optional : member.form.isRequired = false) :
      SlotRead forest path member .null .undefined
  | one {raw : Json} {value : WireValue} (single : member.form.isSingle)
      (read : ofPlainValue forest path member.child? raw = .ok value) :
      SlotRead forest path member raw (.present [value])
  | many {items : List Json} {values : List WireValue} (multiple : member.form.isSingle = false)
      (read : ofPlainItems forest path member.child? items = .ok values) :
      SlotRead forest path member (.arr items) (.present values)

theorem ofPlainSlot_ok {raw : Json} {slot : Slot WireValue}
    (read : ofPlainSlot forest path member raw = .ok slot) :
    SlotRead forest path member raw slot := by
  cases raw with
  | null =>
      rw [ofPlainSlot] at read
      unfold absentSlot at read
      cases form : member.form with
      | value | list =>
          rw [form] at read
          cases read
      | optionalValue | optionalList =>
          rw [form] at read
          cases read
          exact .absent (by rw [form]; rfl)
  | arr items =>
      rw [ofPlainSlot] at read
      split at read
      next single =>
        obtain ⟨value, valueRead, read⟩ := Outcome.bind_eq_ok.mp read
        cases Outcome.pure_eq_ok.mp read
        exact .one single valueRead
      next multiple =>
        obtain ⟨values, valuesRead, read⟩ := Outcome.bind_eq_ok.mp read
        cases Outcome.pure_eq_ok.mp read
        exact .many (Bool.eq_false_iff.mpr multiple) valuesRead
  | bool _ | int _ | float _ | str _ | obj _ =>
      rw [ofPlainSlot] at read
      · split at read
        next single =>
          obtain ⟨value, valueRead, read⟩ := Outcome.bind_eq_ok.mp read
          cases Outcome.pure_eq_ok.mp read
          exact .one single valueRead
        next => cases read
      · simp
      · simp

/-- The ways in which a record is read: from an object, as an open map or member by member. -/
inductive RecordRead (forest : Forest) (path type : String) : Json → WireRecord → Prop where
  | openMap {definition : Definition} {entries : List (String × Json)}
      (found : forest.find? type = some definition) (body : definition.body = .openMap) :
      RecordRead forest path type (.obj entries) (openOfPlain entries)
  | record {definition : Definition} {members : List Member} {entries : List (String × Json)}
      {record : WireRecord} (found : forest.find? type = some definition)
      (body : definition.body = .record members)
      (read : ofPlainMembers forest path entries members = .ok record) :
      RecordRead forest path type (.obj entries) record

theorem ofPlainAt_ok {plain : Json} {record : WireRecord}
    (read : ofPlainAt forest path type plain = .ok record) :
    RecordRead forest path type plain record := by
  rw [ofPlainAt, Forest.definition] at read
  cases found : forest.find? type with
  | none => simp [found] at read
  | some definition =>
      simp only [found] at read
      cases plain with
      | null | bool _ | int _ | float _ | str _ | arr _ => cases read
      | obj entries =>
          cases body : definition.body with
          | openMap =>
              simp only [body] at read
              cases read
              exact .openMap found body
          | record members =>
              simp only [body] at read
              exact .record found body read
          | date _ | aggregate _ => simp [body] at read

end StoreSchema.Forest
