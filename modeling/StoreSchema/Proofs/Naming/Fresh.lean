import Mathlib.Data.String.Basic
import StoreSchema.Naming.Registry

/-! # Fresh names

A generated name is free in the registry that it comes from, and its registry takes that name and
its wire twin and nothing else.
-/

namespace StoreSchema.Naming.Registry

theorem mem_take {name other : String} {registry : Registry} :
    other ∈ take name registry ↔ other = name ∨ other ∈ registry := by
  unfold take
  split
  next taken =>
    have inside : name ∈ registry := List.contains_iff_mem.mp taken
    constructor
    · exact .inr
    · rintro (rfl | member)
      · exact inside
      · exact member
  next => exact List.mem_cons

theorem mem_register {strategy : Strategy} {name other : String} {registry : Registry} :
    other ∈ register strategy name registry ↔
      other = strategy.wireName name ∨ other = name ∨ other ∈ registry := by
  simp only [register, mem_take]

theorem isFree_iff {strategy : Strategy} {registry : Registry} {name : String} :
    isFree strategy registry name = true ↔
      name ∉ registry ∧ strategy.wireName name ∉ registry := by
  simp only [isFree, Bool.and_eq_true, Bool.not_eq_true', List.contains_eq_mem,
    decide_eq_false_iff_not]

theorem isFree_of_firstNumbered {strategy : Strategy} {registry : Registry} {base name : String}
    (found : firstNumbered strategy registry base = some name) :
    isFree strategy registry name = true := by
  obtain ⟨n, -, tried⟩ := List.exists_of_findSome?_eq_some found
  split at tried
  next free =>
    cases tried
    exact free
  next => cases tried

theorem isFree_of_choose {strategy : Strategy} {registry : Registry} {path : List String}
    {name : String} (chosen : choose strategy registry path = .ok name) :
    isFree strategy registry name = true := by
  unfold choose at chosen
  split at chosen
  next => cases chosen
  next last above _ =>
    dsimp only at chosen
    split at chosen
    next free =>
      cases chosen
      exact free
    next =>
      split at chosen
      next => cases chosen
      next parent _ =>
        split at chosen
        next free =>
          cases chosen
          exact free
        next =>
          split at chosen
          next => cases chosen
          next =>
            split at chosen
            next numberedName found =>
              cases chosen
              exact isFree_of_firstNumbered found
            next => cases chosen

theorem generate_ok {strategy : Strategy} {before after : Registry} {path : List String}
    {name : String} (generated : generate strategy before path = .ok (name, after)) :
    (name ∉ before ∧ strategy.wireName name ∉ before) ∧ after = before.register strategy name := by
  unfold generate at generated
  split at generated
  next chosen found =>
    cases generated
    exact ⟨isFree_iff.mp (isFree_of_choose found), rfl⟩
  next => cases generated

end StoreSchema.Naming.Registry
