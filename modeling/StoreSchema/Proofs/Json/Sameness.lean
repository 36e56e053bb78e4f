import StoreSchema.Json.Basic
import StoreSchema.Proofs.Keyed

/-! # Documents up to the order of keys

The order of the keys of an object carries no meaning. Two documents are the same if they are equal
once the keys of every object are sorted, which for objects means that every key finds the same.
Where no object repeats a key, sorting does nothing but reorder.
-/

namespace StoreSchema.Json

mutual

/-- The value with the keys of every object in ascending order. Of a key that repeats, the first
    value stays, which is the one that a look-up finds. -/
def sortKeys : Json → Json
  | .arr items => .arr (sortItems items)
  | .obj members => .obj (sortMembers members)
  | value => value

/-- Items with the keys of every object in ascending order. -/
def sortItems : List Json → List Json
  | [] => []
  | item :: rest => item.sortKeys :: sortItems rest

/-- Members in ascending order of their keys, and so at every level below. -/
def sortMembers : List (String × Json) → List (String × Json)
  | [] => []
  | (key, value) :: rest => Keyed.insert key value.sortKeys (sortMembers rest)

end

/-- Two values are equal but for the order of keys. -/
def Same (left right : Json) : Prop :=
  left.sortKeys = right.sortKeys

theorem Same.refl (value : Json) : value.Same value := rfl

theorem sortMembers_ascending (members : List (String × Json)) :
    Keyed.Ascending (sortMembers members) := by
  induction members with
  | nil => exact .nil
  | cons entry rest ih =>
      obtain ⟨key, value⟩ := entry
      exact ih.insert key value.sortKeys

theorem lookup_sortMembers (members : List (String × Json)) (key : String) :
    (sortMembers members).lookup key = (members.lookup key).map sortKeys := by
  induction members with
  | nil => rfl
  | cons entry rest ih =>
      obtain ⟨name, value⟩ := entry
      rw [sortMembers, Keyed.lookup_insert]
      by_cases same : key = name
      · simp [same]
      · rw [if_neg same, ih, Keyed.lookup_cons_of_ne same]

theorem Same.obj {left right : List (String × Json)}
    (each : ∀ key, (left.lookup key).map sortKeys = (right.lookup key).map sortKeys) :
    (Json.obj left).Same (.obj right) := by
  refine congrArg Json.obj
    ((sortMembers_ascending left).ext (sortMembers_ascending right) fun key => ?_)
  rw [lookup_sortMembers, lookup_sortMembers, each]

/-! ## Keys that do not repeat -/

mutual

/-- No object repeats a key, at any depth. -/
def KeysOnce : Json → Prop
  | .arr items => ItemsOnce items
  | .obj members => MembersOnce members
  | _ => True

/-- No object among items, and none below them, repeats a key. -/
def ItemsOnce : List Json → Prop
  | [] => True
  | item :: rest => item.KeysOnce ∧ ItemsOnce rest

/-- The members of an object do not repeat a key, and no object below them does. -/
def MembersOnce : List (String × Json) → Prop
  | [] => True
  | (key, value) :: rest => key ∉ rest.map Prod.fst ∧ value.KeysOnce ∧ MembersOnce rest

end

theorem MembersOnce.value {members : List (String × Json)} (once : MembersOnce members)
    {key : String} {value : Json} (found : members.lookup key = some value) : value.KeysOnce := by
  induction members with
  | nil => cases found
  | cons entry rest ih =>
      obtain ⟨name, first⟩ := entry
      obtain ⟨-, firstOnce, restOnce⟩ := once
      by_cases same : key = name
      · subst same
        rw [List.lookup_cons_self] at found
        exact Option.some.inj found ▸ firstOnce
      · rw [Keyed.lookup_cons_of_ne same] at found
        exact ih restOnce found

theorem mem_keys_sortMembers {members : List (String × Json)} {key : String} :
    key ∈ (sortMembers members).map Prod.fst ↔ key ∈ members.map Prod.fst := by
  induction members with
  | nil => rfl
  | cons entry rest ih =>
      obtain ⟨name, value⟩ := entry
      rw [sortMembers, Keyed.mem_keys_insert, ih, List.map_cons, List.mem_cons]

theorem sortMembers_perm {members : List (String × Json)} (once : MembersOnce members) :
    (sortMembers members).Perm (members.map fun entry => (entry.1, entry.2.sortKeys)) := by
  induction members with
  | nil => exact .refl _
  | cons entry rest ih =>
      obtain ⟨key, value⟩ := entry
      obtain ⟨absent, -, restOnce⟩ := once
      have inserted := Keyed.insert_perm value.sortKeys (mt mem_keys_sortMembers.mp absent)
      exact inserted.trans ((ih restOnce).cons (key, value.sortKeys))

end StoreSchema.Json
