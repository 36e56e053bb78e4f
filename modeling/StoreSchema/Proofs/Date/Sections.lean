import Mathlib.Algebra.Ring.Nat
import Mathlib.Data.List.Basic
import StoreSchema.Date.Pattern
import StoreSchema.Proofs.Outcome

/-! # Sections of a pattern

A pattern spells a row of parts: atoms, and optional sections that hold rows themselves. Every row
is read back from what spells it, and nothing else is read. Each section may be chosen or left out,
a section inside another one only where that one is chosen.
-/

namespace StoreSchema.Date

/-! ## Rows of parts -/

/-- Induction on rows of parts, into the sections. -/
@[elab_as_elim]
theorem partsInduction {motive : List Part → Prop} (nil : motive [])
    (atom : ∀ atom rest, motive rest → motive (.atom atom :: rest))
    (optional : ∀ inner rest, motive inner → motive rest → motive (.optional inner :: rest)) :
    ∀ tree, motive tree
  | [] => nil
  | .atom first :: rest => atom first rest (partsInduction nil atom optional rest)
  | .optional inner :: rest =>
    optional inner rest (partsInduction nil atom optional inner)
      (partsInduction nil atom optional rest)

mutual

/-- How many sections a row of parts has, with those inside others. -/
def sections : List Part → Nat
  | [] => 0
  | part :: rest => part.sections + sections rest

def Part.sections : Part → Nat
  | .atom _ => 0
  | .optional inner => sections inner + 1

end

mutual

/-- The atoms of a row of parts with every section chosen. -/
def allAtoms : List Part → List Atom
  | [] => []
  | part :: rest => part.atoms ++ allAtoms rest

def Part.atoms : Part → List Atom
  | .atom atom => [atom]
  | .optional inner => allAtoms inner

end

mutual

/-- The marks of a row of parts, with brackets around its sections. -/
def treeMarks : List Part → List Mark
  | [] => []
  | part :: rest => part.marks ++ treeMarks rest

def Part.marks : Part → List Mark
  | .atom atom => [.atom atom]
  | .optional inner => .opening :: treeMarks inner ++ [.closing]

end

section

variable {tree inner rest : List Part} {atom : Atom}

theorem treeMarks_append (tree rest : List Part) :
    treeMarks (tree ++ rest) = treeMarks tree ++ treeMarks rest := by
  induction tree with
  | nil => rfl
  | cons part others ih => rw [List.cons_append, treeMarks, treeMarks, ih, List.append_assoc]

theorem count_treeMarks (tree : List Part) : (treeMarks tree).count .opening = sections tree := by
  induction tree using partsInduction with
  | nil => rfl
  | atom atom rest ih => simp [treeMarks, Part.marks, sections, Part.sections, ih]
  | optional inner rest within ih =>
      simp only [treeMarks, Part.marks, sections, Part.sections, List.count_append,
        List.cons_append, List.count_cons_self, within, ih]
      simp
      omega

end

/-! ## Choices of sections -/

/-- The rows of atoms that a row of parts leaves when some of its sections are chosen. -/
inductive Selects : List Part → List Atom → Prop where
  | nil : Selects [] []
  | atom (atom : Atom) {rest : List Part} {atoms : List Atom} (later : Selects rest atoms) :
      Selects (.atom atom :: rest) (atom :: atoms)
  | chosen {inner rest : List Part} {within atoms : List Atom} (inside : Selects inner within)
      (later : Selects rest atoms) : Selects (.optional inner :: rest) (within ++ atoms)
  | left (inner : List Part) {rest : List Part} {atoms : List Atom} (later : Selects rest atoms) :
      Selects (.optional inner :: rest) atoms

section

variable {tree : List Part} {atoms : List Atom}

theorem choices_atom (atom : Atom) (rest : List Part) :
    choices (.atom atom :: rest) = (choices rest).map (atom :: ·) := by
  simp [choices, partChoices]

theorem choices_optional (inner rest : List Part) :
    choices (.optional inner :: rest) =
      ((choices inner).flatMap fun within => (choices rest).map (within ++ ·)) ++ choices rest := by
  simp [choices, partChoices]

theorem mem_choices : atoms ∈ choices tree ↔ Selects tree atoms := by
  constructor
  · intro inside
    induction tree using partsInduction generalizing atoms with
    | nil =>
        cases List.mem_singleton.mp inside
        exact .nil
    | atom atom rest ih =>
        rw [choices_atom] at inside
        obtain ⟨others, found, rfl⟩ := List.mem_map.mp inside
        exact .atom atom (ih found)
    | optional inner rest within ih =>
        rw [choices_optional, List.mem_append, List.mem_flatMap] at inside
        rcases inside with ⟨chosen, first, inside⟩ | left
        · obtain ⟨others, found, rfl⟩ := List.mem_map.mp inside
          exact .chosen (within first) (ih found)
        · exact .left inner (ih left)
  · intro selects
    induction selects with
    | nil => exact List.mem_singleton_self []
    | atom atom _ ih =>
        rw [choices_atom]
        exact List.mem_map_of_mem ih
    | chosen _ _ within ih =>
        rw [choices_optional, List.mem_append, List.mem_flatMap]
        exact .inl ⟨_, within, List.mem_map_of_mem ih⟩
    | left inner _ ih =>
        rw [choices_optional, List.mem_append]
        exact .inr ih

theorem Selects.sublist (selects : Selects tree atoms) : atoms.Sublist (allAtoms tree) := by
  induction selects with
  | nil => exact .slnil
  | atom atom _ ih => exact ih.cons_cons atom
  | chosen _ _ within ih => exact within.append ih
  | left inner _ ih => exact ih.trans (List.sublist_append_right (allAtoms inner) _)

theorem choices_head (tree : List Part) : ∃ others, choices tree = allAtoms tree :: others := by
  induction tree using partsInduction with
  | nil => exact ⟨[], rfl⟩
  | atom atom rest ih =>
      obtain ⟨others, same⟩ := ih
      rw [choices_atom, same]
      exact ⟨_, rfl⟩
  | optional inner rest within ih =>
      obtain ⟨chosen, first⟩ := within
      obtain ⟨others, same⟩ := ih
      rw [choices_optional, first, same]
      exact ⟨_, rfl⟩

theorem length_choices (tree : List Part) : (choices tree).length ≤ 2 ^ sections tree := by
  induction tree using partsInduction with
  | nil => exact Nat.le_refl 1
  | atom atom rest ih => simpa [choices_atom, sections, Part.sections] using ih
  | optional inner rest within ih =>
      have count : (choices (.optional inner :: rest)).length =
          ((choices inner).length + 1) * (choices rest).length := by
        simp [choices_optional, List.length_flatMap, Nat.add_mul]
      have inside : (choices inner).length + 1 ≤ 2 ^ (sections inner + 1) := by
        have positive := Nat.two_pow_pos (sections inner)
        rw [Nat.pow_succ]
        omega
      calc (choices (.optional inner :: rest)).length
          = ((choices inner).length + 1) * (choices rest).length := count
        _ ≤ 2 ^ (sections inner + 1) * 2 ^ sections rest := Nat.mul_le_mul inside ih
        _ = 2 ^ sections (.optional inner :: rest) := (Nat.pow_add 2 _ _).symm

end

/-! ## Brackets -/

/-- The marks up to a place inside a row of parts: those of the sections that are open around it,
    the innermost first, and those before it in its own section. -/
def openMarks : List (List Part) → List Part → List Mark
  | [], current => treeMarks current
  | outer :: around, current => openMarks around outer ++ .opening :: treeMarks current

theorem openMarks_concat (around : List (List Part)) (current : List Part) (part : Part) :
    openMarks around (current ++ [part]) = openMarks around current ++ part.marks := by
  cases around <;> simp [openMarks, treeMarks_append, treeMarks]

variable {around : List (List Part)} {current tree : List Part} {row : List Mark}

theorem treeMarks_of_nest (read : nest around current row = .ok tree) :
    treeMarks tree = openMarks around current ++ row := by
  induction row generalizing around current with
  | nil =>
      rw [nest] at read
      split at read
      next none =>
        cases read
        rw [List.isEmpty_iff.mp none, openMarks, List.append_nil]
      next => cases read
  | cons mark rest ih =>
      cases mark with
      | atom atom =>
          rw [ih read, openMarks_concat]
          simp [Part.marks]
      | opening =>
          rw [ih read]
          simp [openMarks, treeMarks]
      | closing =>
          cases around with
          | nil => cases read
          | cons outer others =>
              rw [ih read, openMarks_concat]
              simp [openMarks, Part.marks]
      | unterminated => cases read

/-- The marks of a row of parts are read as that row, wherever they stand. -/
theorem nest_treeMarks (tree : List Part) (around : List (List Part)) (current : List Part)
    (row : List Mark) :
    nest around current (treeMarks tree ++ row) = nest around (current ++ tree) row := by
  induction tree using partsInduction generalizing around current row with
  | nil => simp [treeMarks]
  | atom atom rest ih => simp [treeMarks, Part.marks, nest, ih]
  | optional inner rest within ih => simp [treeMarks, Part.marks, nest, within, ih]

theorem nest_eq_ok : nest [] [] row = .ok tree ↔ row = treeMarks tree := by
  constructor
  · intro read
    simpa [openMarks, treeMarks] using (treeMarks_of_nest read).symm
  · rintro rfl
    simpa [nest] using nest_treeMarks tree [] [] []

end StoreSchema.Date
