import Mathlib.Data.List.Nodup
import Mathlib.Data.List.Perm.Subperm
import StoreSchema.Proofs.Naming.Fresh
import StoreSchema.Proofs.Text.Decimal

/-! # Overlapping names

A taken name stands in the way of one number behind a given name, and of one more by its wire twin,
so a search through more numbers than that finds a free one. Refusing overlaps and numbering them
therefore differ in one thing only: where the one refuses, the other puts a number behind the name.
-/

namespace StoreSchema.Naming

theorem numbered_injective (name : String) : Function.Injective (numbered name) := by
  intro left right same
  have digits : Text.digits left = Text.digits right := by
    simpa [numbered, String.ofList_inj] using same
  rw [← Text.ofDigits_digits left, digits, Text.ofDigits_digits]

theorem wireName_injective (strategy : Strategy) : Function.Injective strategy.wireName := by
  intro left right same
  simpa [Strategy.wireName] using same

namespace Registry

/-! ## The search for a number -/

/-- Different numbers lead to different names, so no more of them are blocked than names are
    taken. -/
theorem countP_taken_le {name : Nat → String} (injective : Function.Injective name)
    (registry : Registry) {numbers : List Nat} (distinct : numbers.Nodup) :
    numbers.countP (fun n => decide (name n ∈ registry)) ≤ registry.length := by
  have blocked : ((numbers.filter fun n => decide (name n ∈ registry)).map name).Nodup :=
    List.Nodup.map injective (distinct.filter _)
  have taken : (numbers.filter fun n => decide (name n ∈ registry)).map name ⊆ registry := by
    intro other inside
    obtain ⟨n, among, rfl⟩ := List.mem_map.mp inside
    exact of_decide_eq_true (List.mem_filter.mp among).2
  have fits := (List.subperm_of_subset blocked taken).length_le
  rwa [List.length_map, ← List.countP_eq_length_filter] at fits

theorem exists_free_number (strategy : Strategy) (registry : Registry) (name : String) :
    ∃ n ∈ List.range' 1 registry.attempts, isFree strategy registry (numbered name n) := by
  by_contra none
  have distinct : (List.range' 1 registry.attempts).Nodup := List.nodup_range'
  have byName := countP_taken_le (numbered_injective name) registry distinct
  have byTwin := countP_taken_le ((wireName_injective strategy).comp (numbered_injective name))
    registry distinct
  have blocked : ∀ n ∈ List.range' 1 registry.attempts,
      decide (numbered name n ∉ registry) = true →
        decide ((strategy.wireName ∘ numbered name) n ∈ registry) = true := by
    intro n among nameFree
    by_contra twinFree
    exact none ⟨n, among, isFree_iff.mpr ⟨of_decide_eq_true nameFree, by simpa using twinFree⟩⟩
  have rest := List.countP_mono_left blocked
  have all := List.length_eq_countP_add_countP (fun n => decide (numbered name n ∈ registry))
    (l := List.range' 1 registry.attempts)
  simp only [List.length_range', decide_eq_true_eq] at all
  have tried : registry.attempts = 2 * registry.length + 1 := rfl
  omega

theorem firstNumbered_eq_some (strategy : Strategy) (registry : Registry) (name : String) :
    ∃ n, 0 < n ∧ firstNumbered strategy registry name = some (numbered name n) := by
  obtain ⟨m, among, free⟩ := exists_free_number strategy registry name
  cases found : firstNumbered strategy registry name with
  | none =>
      have tried := List.findSome?_eq_none_iff.mp found m among
      simp [free] at tried
  | some chosen =>
      obtain ⟨n, tried, result⟩ := List.exists_of_findSome?_eq_some found
      split at result
      next =>
        cases result
        exact ⟨n, (List.mem_range'_1.mp tried).1, rfl⟩
      next => cases result

end Registry

/-! ## Two answers to an overlap -/

/-- The strategy with an answer to overlaps. -/
def Strategy.onOverlap (strategy : Strategy) (overlap : Overlap) : Strategy :=
  { strategy with overlap }

section

variable (strategy : Strategy) (overlap : Overlap) (registry : Registry)

@[simp] theorem Strategy.candidate_onOverlap (path : List String) (last : String) :
    (strategy.onOverlap overlap).candidate path last = strategy.candidate path last := rfl

@[simp] theorem Strategy.secondary_onOverlap (path : List String) (parent last : String) :
    (strategy.onOverlap overlap).secondary path parent last =
      strategy.secondary path parent last := rfl

@[simp] theorem Strategy.wireName_onOverlap (name : String) :
    (strategy.onOverlap overlap).wireName name = strategy.wireName name := rfl

@[simp] theorem Registry.isFree_onOverlap (name : String) :
    Registry.isFree (strategy.onOverlap overlap) registry name =
      Registry.isFree strategy registry name := rfl

@[simp] theorem Registry.register_onOverlap (name : String) :
    registry.register (strategy.onOverlap overlap) name = registry.register strategy name := rfl

end

namespace Registry

/-- What a request for the name of a path comes to where overlaps are refused, and where they are
    numbered. -/
inductive Answers (path : List String) :
    Except Error (String × Registry) → Except Error (String × Registry) → Prop where
  | named (name : String) (after : Registry) : Answers path (.ok (name, after)) (.ok (name, after))
  | overlap (name : String) (n : Nat) (positive : 0 < n) (after : Registry) :
      Answers path (.error (.overlap name path)) (.ok (numbered name n, after))
  /-- Without a segment above the last one there is no second name. -/
  | short (fault : Error) (few : path.length < 2) : Answers path (.error fault) (.error fault)

theorem generate_answers (strategy : Strategy) (registry : Registry) (path : List String) :
    Answers path (generate (strategy.onOverlap .refuse) registry path)
      (generate (strategy.onOverlap .number) registry path) := by
  unfold generate choose
  cases reversed : path.reverse with
  | nil =>
      have empty : path = [] := List.reverse_eq_nil_iff.mp reversed
      exact .short _ (by simp [empty])
  | cons last above =>
      have length : path.length = above.length + 1 := by
        rw [← List.length_reverse, reversed, List.length_cons]
      simp only [Strategy.candidate_onOverlap, Strategy.secondary_onOverlap, isFree_onOverlap,
        register_onOverlap]
      by_cases first : isFree strategy registry (strategy.candidate path last)
      · simp only [first, if_true]
        exact .named _ _
      · simp only [first]
        cases above with
        | nil => exact .short _ (by simp [length])
        | cons parent rest =>
            by_cases second : isFree strategy registry (strategy.secondary path parent last)
            · simp only [second, if_true]
              exact .named _ _
            · obtain ⟨n, positive, found⟩ := firstNumbered_eq_some (strategy.onOverlap .number)
                registry (strategy.secondary path parent last)
              simp only [second, Strategy.onOverlap] at found ⊢
              simp only [found]
              exact .overlap _ n positive _

theorem generate_of_none_taken (strategy : Strategy) {path : List String} (named : path ≠ []) :
    ∃ given, ∀ overlap, generate (strategy.onOverlap overlap) [] path = .ok given := by
  unfold generate choose
  cases reversed : path.reverse with
  | nil => exact absurd (List.reverse_eq_nil_iff.mp reversed) named
  | cons last above =>
      exact ⟨(strategy.candidate path last,
        register strategy (strategy.candidate path last) []), fun overlap => rfl⟩

end Registry

end StoreSchema.Naming
