import Mathlib.Data.List.Forall2
import Mathlib.Data.Nat.Find

/-! # Lists related element by element, and searches

What one list has, the related list has a counterpart of. A search for a number ends at the least
one that is wanted.
-/

namespace StoreSchema.Lists

variable {α β γ : Type}

theorem exists_right {related : α → β → Prop} {left : List α} {right : List β}
    (all : List.Forall₂ related left right) {value : α} (inside : value ∈ left) :
    ∃ other ∈ right, related value other := by
  induction all with
  | nil => simp at inside
  | @cons first other rest more head tail ih =>
      cases List.mem_cons.mp inside with
      | inl same => exact ⟨other, List.mem_cons_self, same ▸ head⟩
      | inr later =>
          obtain ⟨found, member, holds⟩ := ih later
          exact ⟨found, List.mem_cons_of_mem other member, holds⟩

theorem exists_left {related : α → β → Prop} {left : List α} {right : List β}
    (all : List.Forall₂ related left right) {value : β} (inside : value ∈ right) :
    ∃ other ∈ left, related other value :=
  exists_right all.flip inside

theorem compose {first : α → β → Prop} {second : β → γ → Prop} {both : α → γ → Prop}
    (joins : ∀ a b c, first a b → second b c → both a c) {left : List α} {middle : List β}
    {right : List γ} (one : List.Forall₂ first left middle)
    (two : List.Forall₂ second middle right) : List.Forall₂ both left right := by
  induction one generalizing right with
  | nil =>
      cases two
      exact .nil
  | cons head tail ih =>
      cases two with
      | cons next more => exact .cons (joins _ _ _ head next) (ih more)

theorem split_right {related : α → β → Prop} {left : List α} {value : β} {before after : List β}
    (all : List.Forall₂ related left (before ++ value :: after)) :
    ∃ front other back, left = front ++ other :: back ∧ List.Forall₂ related front before ∧
      related other value ∧ List.Forall₂ related back after := by
  induction before generalizing left with
  | nil =>
      cases all with
      | cons head tail => exact ⟨[], _, _, rfl, .nil, head, tail⟩
  | cons first rest ih =>
      cases all with
      | @cons one _ more _ head tail =>
          obtain ⟨front, other, back, rfl, early, here, late⟩ := ih tail
          exact ⟨one :: front, other, back, rfl, .cons head early, here, late⟩

theorem map_eq_map {related : α → β → Prop} {f : α → γ} {g : β → γ}
    (agrees : ∀ a b, related a b → f a = g b) {left : List α} {right : List β}
    (all : List.Forall₂ related left right) : left.map f = right.map g := by
  induction all with
  | nil => rfl
  | cons head tail ih => rw [List.map_cons, List.map_cons, agrees _ _ head, ih]

/-- Either all elements have one property, or there is a first one with another. -/
theorem all_or_first {holds fails : α → Prop} {values : List α}
    (each : ∀ value ∈ values, holds value ∨ fails value) :
    (∀ value ∈ values, holds value) ∨
      ∃ before value after, values = before ++ value :: after ∧ (∀ other ∈ before, holds other) ∧
        fails value := by
  induction values with
  | nil => exact .inl (by simp)
  | cons first rest ih =>
      obtain ⟨here, later⟩ := List.forall_mem_cons.mp each
      cases here with
      | inr fault => exact .inr ⟨[], first, rest, rfl, by simp, fault⟩
      | inl fine =>
          cases ih later with
          | inl all => exact .inl (List.forall_mem_cons.mpr ⟨fine, all⟩)
          | inr found =>
              obtain ⟨before, value, after, rfl, all, fault⟩ := found
              exact .inr ⟨first :: before, value, after, rfl,
                List.forall_mem_cons.mpr ⟨fine, all⟩, fault⟩

theorem findSome?_first {wanted : Nat → Prop} [DecidablePred wanted] (value : Nat → α) {count : Nat}
    (ends : ∃ n ∈ List.range' 1 count, wanted n) :
    ∃ n < count,
      (List.range' 1 count).findSome? (fun n => if wanted n then some (value n) else none) =
        some (value (n + 1)) ∧
      wanted (n + 1) ∧ ∀ m < n, ¬ wanted (m + 1) := by
  obtain ⟨number, tried, last⟩ := ends
  obtain ⟨positive, among⟩ := List.mem_range'_1.mp tried
  rw [← Nat.sub_add_cancel positive] at last
  have reached : ∃ n, wanted (n + 1) := ⟨number - 1, last⟩
  have bound : Nat.find reached ≤ number - 1 := Nat.find_min' reached last
  have first := Nat.find_spec reached
  have least : ∀ m < Nat.find reached, ¬ wanted (m + 1) := fun m before => Nat.find_min reached before
  generalize Nat.find reached = n at bound first least
  refine ⟨n, by omega, ?_, first, least⟩
  have numbers : List.range' 1 count =
      List.range' 1 n ++ (n + 1) :: List.range' (n + 2) (count - n - 1) := by
    have all : count = n + (count - n - 1 + 1) := by omega
    conv => lhs; rw [all]
    rw [← List.range'_append_1, List.range'_succ, Nat.add_comm 1 n]
  refine List.findSome?_eq_some_iff.mpr ⟨_, n + 1, _, numbers, if_pos first, ?_⟩
  intro m early
  obtain ⟨atLeast, small⟩ := List.mem_range'_1.mp early
  have unwanted := least (m - 1) (by omega)
  rw [Nat.sub_add_cancel atLeast] at unwanted
  exact if_neg unwanted

end StoreSchema.Lists
