import StoreSchema.Proofs.Json.Records

/-! # Documents that differ at one place

Where a document is read and another one differs from it at one place only, reading the other one
goes alike up to the part that holds the place. If that part is refused, the fault is placed as the
container names its parts, and what stands behind is not reached. A member that is put aside is not
read yet: then the difference goes on among what was put aside.
-/

namespace StoreSchema

/-- Two documents differ at a place alone: there the one holds `one` and the other holds `other`. -/
inductive Document.Differ (one other : Document) :
    List Decoding.Step → Document → Document → Prop where
  | here : Differ one other [] one other
  | member {place : List Decoding.Step} {left right : Document}
      (before : List (Option String × Document)) (name : String)
      (after : List (Option String × Document)) (ending : Ending)
      (below : Differ one other place left right) :
      Differ one other (.key name :: place) (.obj (before ++ (some name, left) :: after) ending)
        (.obj (before ++ (some name, right) :: after) ending)
  | item {place : List Decoding.Step} {left right : Document} (before after : List Document)
      (ending : Ending) (below : Differ one other place left right) :
      Differ one other (.index before.length :: place) (.arr (before ++ left :: after) ending)
        (.arr (before ++ right :: after) ending)

namespace Decoding

variable {σ κ α : Type} {e : Error}

/-! ## Parts that are refused -/

theorem field_fails {name : String} {read : Document → Result α} {content : Document}
    (fails : read content = .error e) (store : α → σ → σ) (record : σ) :
    (field name read store).read content record = .error e := by
  simp only [field, fails]
  rfl

section

variable {fields : List (Field σ)} {field : Field σ} {name : String} {left right : Document}
  {seen : List String} {record result : σ} {before after : List (Option String × Document)}

theorem membersWith_fails {other : String → Document → σ → Result σ}
    (found : fields.find? (·.name == name) = some field)
    (fails : ∀ record next, field.read left record = .ok next → field.read right record = .error e)
    (read : membersWith fields other seen record (before ++ (some name, left) :: after) =
      .ok result) :
    membersWith fields other seen record (before ++ (some name, right) :: after) =
      .error ⟨.key name :: e.path, e.cause⟩ := by
  induction before generalizing seen record with
  | nil =>
      simp only [List.nil_append, membersWith, found] at read ⊢
      split at read
      next => cases read
      next unseen =>
        obtain ⟨next, first, -⟩ := Outcome.bind_eq_ok.mp read
        rw [if_neg unseen, fails record next (within_eq_ok.mp first)]
        rfl
  | cons entry rest ih =>
      obtain ⟨_ | key, content⟩ := entry
      · cases read
      simp only [List.cons_append, membersWith] at read ⊢
      cases known : fields.find? (·.name == key) with
      | none =>
          simp only [known] at read ⊢
          obtain ⟨next, first, read⟩ := Outcome.bind_eq_ok.mp read
          rw [first]
          exact ih read
      | some own =>
          simp only [known] at read ⊢
          split at read
          next => cases read
          next unseen =>
            obtain ⟨next, first, read⟩ := Outcome.bind_eq_ok.mp read
            rw [if_neg unseen, first]
            exact ih read

theorem entriesWith_fails {step : String → Step} {readKey : String → Result κ}
    {readPart : Document → Result α} {add : κ → α → σ → σ}
    (fails : ∀ value, readPart left = .ok value → readPart right = .error e)
    (read : entriesWith step readKey readPart add record (before ++ (some name, left) :: after) =
      .ok result) :
    entriesWith step readKey readPart add record (before ++ (some name, right) :: after) =
      .error ⟨step name :: e.path, e.cause⟩ := by
  induction before generalizing record with
  | nil =>
      rw [List.nil_append, entriesWith] at read ⊢
      obtain ⟨key, known, read⟩ := Outcome.bind_eq_ok.mp read
      obtain ⟨value, first, -⟩ := Outcome.bind_eq_ok.mp read
      rw [known, fails value (within_eq_ok.mp first)]
      rfl
  | cons entry rest ih =>
      obtain ⟨_ | key, content⟩ := entry
      · cases read
      rw [List.cons_append, entriesWith] at read ⊢
      obtain ⟨own, known, read⟩ := Outcome.bind_eq_ok.mp read
      obtain ⟨value, first, read⟩ := Outcome.bind_eq_ok.mp read
      rw [known, first]
      exact ih read

theorem positions_fails {position : Nat} {before after : List Document} {rest : List Document}
    (known : fields[before.length]? = some field)
    (fails : ∀ record, field.read right record = .error e)
    (read : positions position record fields (before ++ left :: after) = .ok (result, rest)) :
    positions position record fields (before ++ right :: after) =
      .error ⟨.index (position + before.length) :: e.path, e.cause⟩ := by
  induction before generalizing position record fields with
  | nil =>
      cases fields with
      | nil => cases known
      | cons first others =>
          cases known
          rw [List.nil_append, positions, fails]
          rfl
  | cons item items ih =>
      cases fields with
      | nil => cases known
      | cons first others =>
          rw [List.cons_append, positions] at read ⊢
          obtain ⟨next, here, read⟩ := Outcome.bind_eq_ok.mp read
          have later := ih known read
          rw [here, List.length_cons, Nat.add_comm items.length, ← Nat.add_assoc]
          exact later

end

/-! ## Records next to others -/

/-- A field of a record for which the members of no field are put aside. -/
def beside (name : String) (read : Document → Result α) (put : α → σ → σ) :
    Field (σ × List (String × Json)) :=
  field name read fun value record => (put value record.1, record.2)

section

variable {name : String} {read : Document → Result α} {put : α → σ → σ} {seen : List String}
  {state final : σ} {aside entries : List (String × Json)}

theorem membersWith_aside (seen : List String) (state : σ) (aside : List (String × Json))
    (rest : List (Option String × Document)) :
    membersWith [beside name read put] putAside seen (state, aside) rest =
      (membersWith [beside name read put] putAside seen (state, []) rest).map
        fun result => (result.1, aside ++ result.2) := by
  induction rest generalizing seen state aside with
  | nil => simp [membersWith, Except.map]
  | cons entry rest ih =>
      obtain ⟨_ | key, content⟩ := entry
      · rfl
      simp only [membersWith]
      cases known : [beside name read put].find? (·.name == key) with
      | none =>
          simp only [putAside]
          cases anyValue content with
          | error e => rfl
          | ok value =>
              simp only [Outcome.ok_bind, within, pure, Except.pure]
              rw [ih, ih _ _ ([] ++ _)]
              cases membersWith [beside name read put] putAside seen (state, []) rest <;>
                simp [Except.map]
      | some own =>
          have same : own = beside name read put :=
            List.mem_singleton.mp (List.mem_of_find?_eq_some known)
          simp only [same]
          split
          next => rfl
          next =>
            simp only [beside, field]
            cases read content with
            | error e => rfl
            | ok value => exact ih _ _ _

/-- Another value of a member that is put aside is put aside in its place. -/
theorem membersWith_replaces {key : String} {left right : Document} {value : Json}
    {before after : List (Option String × Document)} (foreign : name ≠ key)
    (denotes : anyValue right = .ok value)
    (done : membersWith [beside name read put] putAside seen (state, aside)
      (before ++ (some key, left) :: after) = .ok (final, entries)) :
    ∃ front old back, entries = front ++ (key, old) :: back ∧
      membersWith [beside name read put] putAside seen (state, aside)
        (before ++ (some key, right) :: after) = .ok (final, front ++ (key, value) :: back) := by
  induction before generalizing seen state aside with
  | nil =>
      have absent : [beside name read put].find? (·.name == key) = none := by
        simpa [beside, field] using foreign
      simp only [List.nil_append, membersWith, absent, putAside, denotes] at done ⊢
      obtain ⟨⟨_, _⟩, stored, done⟩ := Outcome.bind_eq_ok.mp done
      obtain ⟨old, -, same⟩ := Outcome.bind_eq_ok.mp (within_eq_ok.mp stored)
      cases same
      rw [membersWith_aside] at done
      simp only [Outcome.ok_bind, within, pure, Except.pure]
      rw [membersWith_aside]
      cases later : membersWith [beside name read put] putAside seen (state, []) after with
      | error e =>
          rw [later] at done
          cases done
      | ok result =>
          rw [later] at done
          cases done
          exact ⟨aside, old, result.2, by simp, by simp [Except.map]⟩
  | cons entry rest ih =>
      obtain ⟨_ | other, content⟩ := entry
      · cases done
      simp only [List.cons_append, membersWith] at done ⊢
      cases known : [beside name read put].find? (·.name == other) with
      | none =>
          simp only [known] at done ⊢
          obtain ⟨next, first, done⟩ := Outcome.bind_eq_ok.mp done
          rw [first]
          exact ih done
      | some own =>
          simp only [known] at done ⊢
          split at done
          next => cases done
          next unseen =>
            obtain ⟨next, first, done⟩ := Outcome.bind_eq_ok.mp done
            rw [if_neg unseen, first]
            exact ih done

end

/-- A record that is read from what was put aside fails at one of its fields without naming it. -/
theorem shared_fails {fields : List (Field σ)} {field : Field σ} {start result : σ}
    {front back : List (String × Json)} {name : String} {old value : Json} {cause : Cause}
    (found : fields.find? (·.name == name) = some field)
    (fails : ∀ record, field.read (.ofJson value) record = fail cause)
    (done : shared fields start (front ++ (name, old) :: back) = .ok result) :
    shared fields start (front ++ (name, value) :: back) = fail cause := by
  rw [shared, Document.ofMembers_append, Document.ofMembers, members] at done ⊢
  split at done
  next record read => rw [membersWith_fails found (fun record _ _ => fails record) read]
  next => cases done

end Decoding

end StoreSchema
