import Mathlib.Data.List.Nodup
import StoreSchema.Json.Decoding
import StoreSchema.Proofs.Outcome

/-! # Records in written order

An object that holds the fields of a record in the order of their declaration is read by giving the
fields their values one after the other. Members that belong to a record next to it are put aside,
and a table is read entry by entry.
-/

namespace StoreSchema

namespace Document

theorem ofMembers_eq_map (entries : List (String × Json)) :
    ofMembers entries = entries.map fun (key, value) => (some key, ofJson value) := by
  induction entries with
  | nil => rfl
  | cons entry rest ih => rw [ofMembers, ih, List.map_cons]

theorem ofMembers_append (entries others : List (String × Json)) :
    ofMembers (entries ++ others) = ofMembers entries ++ ofMembers others := by
  simp only [ofMembers_eq_map, List.map_append]

/-- The parts of a document, in their order. -/
def parts : Document → List Document
  | .arr items _ => items
  | .obj members _ => members.map Prod.snd
  | _ => []

end Document

namespace Decoding

variable {σ κ α : Type}

@[simp] theorem within_ok (step : Step) (value : α) :
    within step (.ok value : Result α) = .ok value := rfl

theorem within_eq_ok {step : Step} {result : Result α} {value : α} :
    within step result = .ok value ↔ result = .ok value := by
  cases result with
  | ok other => rfl
  | error e => exact iff_of_false nofun nofun

/-- Gives fields their values one after the other. -/
def fill : List (Field σ × Json) → σ → Result σ
  | [], record => .ok record
  | (field, value) :: rest, record => do
    let record ← within (.key field.name) (field.read (.ofJson value) record)
    fill rest record

/-- The members of an object in which fields are written with their values. -/
def writtenMembers (written : List (Field σ × Json)) : List (String × Json) :=
  written.map fun (field, value) => (field.name, value)

theorem find?_field {fields : List (Field σ)} (once : (fields.map (·.name)).Nodup)
    {field : Field σ} (inside : field ∈ fields) :
    fields.find? (·.name == field.name) = some field := by
  obtain ⟨found, present⟩ : ∃ found, fields.find? (·.name == field.name) = some found :=
    Option.isSome_iff_exists.mp (List.find?_isSome.mpr ⟨field, inside, beq_self_eq_true _⟩)
  have named : found.name = field.name := eq_of_beq (List.find?_some present :)
  rw [present, List.inj_on_of_nodup_map once (List.mem_of_find?_eq_some present) inside named]

/-- Fields that were not read yet are filled in the order in which they are written. -/
theorem membersWith_fill {fields : List (Field σ)} (other : String → Document → σ → Result σ)
    (distinct : (fields.map (·.name)).Nodup) {written : List (Field σ × Json)} {seen : List String}
    (record : σ) (declared : ∀ entry ∈ written, entry.1 ∈ fields)
    (unread : ∀ entry ∈ written, entry.1.name ∉ seen)
    (once : (written.map (·.1.name)).Nodup) :
    membersWith fields other seen record (Document.ofMembers (writtenMembers written)) =
      fill written record := by
  -- Fields that were read are seen, and their names do not come again in what is left.
  induction written generalizing seen record with
  | nil => rfl
  | cons entry rest ih =>
      obtain ⟨field, value⟩ := entry
      have found := find?_field distinct (declared (field, value) List.mem_cons_self)
      have unseen : ¬ seen.contains field.name = true := fun contained =>
        unread (field, value) List.mem_cons_self (List.contains_iff_mem.mp contained)
      obtain ⟨apart, onceLater⟩ := List.nodup_cons.mp once
      have later : ∀ entry ∈ rest, entry.1.name ∉ field.name :: seen := by
        intro entry inside same
        cases List.mem_cons.mp same with
        | inl same => exact apart (List.mem_map.mpr ⟨entry, inside, same⟩)
        | inr earlier => exact unread entry (List.mem_cons_of_mem _ inside) earlier
      simp only [writtenMembers, List.map_cons, Document.ofMembers, membersWith, found,
        if_neg unseen, fill]
      exact bind_congr fun record => ih record
        (fun entry inside => declared entry (List.mem_cons_of_mem _ inside)) later onceLater

section

variable {written : List (Field σ × Json)} (once : (written.map (·.1.name)).Nodup) (start : σ)

include once

theorem members_fill :
    members (written.map Prod.fst) start (Document.ofMembers (writtenMembers written)) =
      fill written start :=
  membersWith_fill _ (by rwa [List.map_map]) start (fun _ => List.mem_map_of_mem)
    (fun _ _ => List.not_mem_nil) once

theorem record_fill (delivery : Delivery) (title : String) :
    record delivery title (written.map Prod.fst) start
      (Document.ofJson (.obj (writtenMembers written))) = fill written start := by
  rw [Document.ofJson, record, members_fill once]
  exact bind_pure (fill written start)

theorem shared_fill :
    shared (written.map Prod.fst) start (writtenMembers written) =
      (fill written start).mapError fun e => ⟨[], e.cause⟩ := by
  rw [shared, members_fill once]
  cases fill written start <;> rfl

end

/-! ## Fields that may be missing -/

theorem fill_append (first second : List (Field σ × Json)) (record : σ) :
    fill (first ++ second) record = fill first record >>= fill second := by
  induction first generalizing record with
  | nil => rfl
  | cons entry rest ih =>
      obtain ⟨field, value⟩ := entry
      rw [List.cons_append, fill, fill, bind_assoc]
      exact bind_congr ih

/-- A field that is written only if it has a value. -/
def ifPresent (field : Field σ) (toJson : α → Json) (part : Option α) : List (Field σ × Json) :=
  (part.map fun value => (field, toJson value)).toList

theorem ifPresent_sublist (field : Field σ) (toJson : α → Json) (part : Option α) :
    ((ifPresent field toJson part).map Prod.fst).Sublist [field] := by
  cases part with
  | none => exact List.nil_sublist _
  | some value => exact List.Sublist.refl _

theorem fill_ifPresent {name : String} {read : Document → Result (Option α)}
    {store : Option α → σ → σ} {toJson : α → Json} {part : Option α} {record : σ}
    (back : ∀ value ∈ part, read (.ofJson (toJson value)) = .ok (some value))
    (unset : store none record = record) :
    fill (ifPresent (field name read store) toJson part) record = .ok (store part record) := by
  cases part with
  | none =>
      rw [unset]
      rfl
  | some value =>
      simp only [ifPresent, Option.map_some, Option.toList_some, fill, field, back value rfl]
      rfl

theorem record_fill_some {fields : List (Field σ)} (distinct : (fields.map (·.name)).Nodup)
    {written : List (Field σ × Json)} (among : (written.map Prod.fst).Sublist fields)
    (delivery : Delivery) (title : String) (start : σ) :
    record delivery title fields start (Document.ofJson (.obj (writtenMembers written))) =
      fill written start := by
  have once : (written.map (·.1.name)).Nodup := by
    have names := distinct.sublist (among.map (·.name))
    rwa [List.map_map] at names
  rw [Document.ofJson, record, members, membersWith_fill _ distinct start
    (fun entry inside => among.subset (List.mem_map_of_mem inside)) (fun _ _ => List.not_mem_nil)
    once]
  exact bind_pure (fill written start)

/-! ## What fields keep -/

/-- What a field keeps of a record when it is read from documents of a kind. -/
def Field.Keeps (field : Field σ) (kind : Document → Prop) (kept : σ → Prop) : Prop :=
  ∀ content record after, kind content → kept record → field.read content record = .ok after →
    kept after

section

variable {kind : Document → Prop} {kept : σ → Prop} {fields : List (Field σ)}
  (each : ∀ field ∈ fields, field.Keeps kind kept)

include each

theorem membersWith_keeps {other : String → Document → σ → Result σ}
    (others : ∀ name content record after, kept record → other name content record = .ok after →
      kept after) {entries : List (Option String × Document)}
    (parts : ∀ entry ∈ entries, kind entry.2) {seen : List String} {record after : σ}
    (before : kept record) (read : membersWith fields other seen record entries = .ok after) :
    kept after := by
  induction entries generalizing seen record with
  | nil => exact Except.ok.inj read ▸ before
  | cons entry rest ih =>
      obtain ⟨here, later⟩ := List.forall_mem_cons.mp parts
      obtain ⟨_ | name, content⟩ := entry
      · cases read
      rw [membersWith] at read
      split at read
      next =>
        obtain ⟨next, first, read⟩ := Outcome.bind_eq_ok.mp read
        exact ih later (others name content record next before (within_eq_ok.mp first)) read
      next field found =>
        split at read
        next => cases read
        next =>
          obtain ⟨next, first, read⟩ := Outcome.bind_eq_ok.mp read
          have declared := List.mem_of_find?_eq_some found
          exact ih later (each field declared content record next here before
            (within_eq_ok.mp first)) read

theorem positions_keeps {items : List Document} (parts : ∀ item ∈ items, kind item)
    {position : Nat} {record after : σ} {left : List Document} (before : kept record)
    (read : positions position record fields items = .ok (after, left)) : kept after := by
  induction fields generalizing items position record with
  | nil =>
      rw [positions] at read
      · exact (Prod.mk.inj (Except.ok.inj read)).1 ▸ before
      · exact fun _ _ _ _ same => nomatch same
  | cons field rest ih =>
      cases items with
      | nil => exact (Prod.mk.inj (Except.ok.inj read)).1 ▸ before
      | cons item items =>
          obtain ⟨here, later⟩ := List.forall_mem_cons.mp parts
          obtain ⟨eachHere, eachLater⟩ := List.forall_mem_cons.mp each
          rw [positions] at read
          obtain ⟨next, first, read⟩ := Outcome.bind_eq_ok.mp read
          exact ih eachLater later (eachHere item record next here before (within_eq_ok.mp first))
            read

theorem record_keeps {delivery : Delivery} {title : String} {start after : σ}
    {document : Document} (parts : ∀ part ∈ document.parts, kind part) (before : kept start)
    (read : record delivery title fields start document = .ok after) : kept after := by
  unfold record at read
  split at read
  next entries ending =>
    obtain ⟨record, filled, closed⟩ := Outcome.bind_eq_ok.mp read
    split at closed
    next =>
      refine Outcome.pure_eq_ok.mp closed ▸ membersWith_keeps each ?_
        (fun entry inside => parts entry.2 (List.mem_map_of_mem inside)) before filled
      intro name content record after before skipped
      cases passed : skip content with
      | ok _ =>
          rw [passed] at skipped
          exact Except.ok.inj skipped ▸ before
      | error e =>
          rw [passed] at skipped
          cases skipped
    next => cases closed
  next items ending =>
    obtain ⟨⟨record, left⟩, filled, closed⟩ := Outcome.bind_eq_ok.mp read
    have keeps := positions_keeps each parts before filled
    dsimp only at closed
    split at closed
    next =>
      split at closed
      next => exact Outcome.pure_eq_ok.mp closed ▸ keeps
      next => cases closed
    next => cases closed
    next => cases closed
  next => cases read

end

/-! ## Members next to a record -/

/-- Puts a member aside for the record next to the one that is read. -/
def putAside (name : String) (content : Document) (read : σ × List (String × Json)) :
    Result (σ × List (String × Json)) := do
  let value ← anyValue content
  pure (read.1, read.2 ++ [(name, value)])

theorem membersWith_putAside {fields : List (Field (σ × List (String × Json)))}
    {entries : List (String × Json)} (seen : List String) (record : σ)
    (before : List (String × Json)) (rest : List (Option String × Document))
    (foreign : ∀ entry ∈ entries, ∀ field ∈ fields, field.name ≠ entry.1)
    (plain : ∀ entry ∈ entries, anyValue (.ofJson entry.2) = .ok entry.2) :
    membersWith fields putAside seen (record, before) (Document.ofMembers entries ++ rest) =
      membersWith fields putAside seen (record, before ++ entries) rest := by
  induction entries generalizing before with
  | nil => simp [Document.ofMembers]
  | cons entry entries ih =>
      obtain ⟨name, value⟩ := entry
      obtain ⟨notHere, notLater⟩ := List.forall_mem_cons.mp foreign
      obtain ⟨here, later⟩ := List.forall_mem_cons.mp plain
      have absent : fields.find? (·.name == name) = none :=
        List.find?_eq_none.mpr fun field inside same => notHere field inside (eq_of_beq same)
      have aside : putAside name (.ofJson value) (record, before) =
          .ok (record, before ++ [(name, value)]) := by
        rw [putAside, here]
        rfl
      have onward := ih (before ++ [(name, value)]) notLater later
      rw [List.append_assoc, List.singleton_append] at onward
      rw [Document.ofMembers, List.cons_append, membersWith, absent]
      dsimp only
      rw [aside]
      exact onward

theorem entriesWith_written {step : String → Step} {readKey : String → Result κ}
    {read : Document → Result α} {add : κ → α → σ → σ} (name : κ → String) (toJson : α → Json)
    {written : List (κ × α)} (table : σ)
    (keys : ∀ entry ∈ written, readKey (name entry.1) = .ok entry.1)
    (values : ∀ entry ∈ written, read (.ofJson (toJson entry.2)) = .ok entry.2) :
    entriesWith step readKey read add table
        (Document.ofMembers (written.map fun (key, value) => (name key, toJson value))) =
      .ok (written.foldl (fun table (key, value) => add key value table) table) := by
  induction written generalizing table with
  | nil => rfl
  | cons entry rest ih =>
      obtain ⟨key, value⟩ := entry
      obtain ⟨readKeyBack, keysLater⟩ := List.forall_mem_cons.mp keys
      obtain ⟨readBack, valuesLater⟩ := List.forall_mem_cons.mp values
      simp only [List.map_cons, Document.ofMembers, entriesWith, readKeyBack, readBack]
      exact ih (add key value table) keysLater valuesLater

theorem itemsFrom_written {read : Document → Result α} {toJson : α → Json} {values : List α}
    (position : Nat) (items : ∀ value ∈ values, read (.ofJson (toJson value)) = .ok value) :
    itemsFrom read position (Document.ofItems (values.map toJson)) = .ok values := by
  induction values generalizing position with
  | nil => rfl
  | cons value rest ih =>
      obtain ⟨readBack, later⟩ := List.forall_mem_cons.mp items
      simp only [List.map_cons, Document.ofItems, itemsFrom, readBack, ih (position + 1) later]
      rfl

theorem list_written {read : Document → Result α} {toJson : α → Json} {values : List α}
    (items : ∀ value ∈ values, read (.ofJson (toJson value)) = .ok value) :
    list read (.ofJson (.arr (values.map toJson))) = .ok values := by
  rw [Document.ofJson, list, itemsFrom_written 0 items]
  rfl

end Decoding

end StoreSchema
