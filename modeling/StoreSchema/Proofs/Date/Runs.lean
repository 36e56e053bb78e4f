import Mathlib.Data.List.Basic
import Mathlib.Tactic.Common
import StoreSchema.Date.Pattern
import StoreSchema.Proofs.Outcome

/-! # Runs of letters

A row of atoms falls into literals, runs of one letter, and fractions: a point with a run of digits
behind it. It has items if all of its runs are of a length that stands for something.
-/

namespace StoreSchema.Date

/-- Whether a run of a letter of some length stands for something. -/
def supports (letter : Char) (count : Nat) : Bool :=
  match letter with
  | 'y' | 'u' | 'M' | 'E' | 'Z' | 'X' => true
  | 'd' | 'H' | 'h' | 'm' | 's' => count ≤ 2
  | 'D' => count ≤ 3
  | 'S' => count = 3 || count = 6 || count = 9
  | 'a' => count = 1
  | _ => false

theorem letterItem_ok_iff {letter : Char} {count : Nat} (positive : 0 < count) :
    (∃ item, letterItem letter count = .ok item) ↔ supports letter count := by
  unfold letterItem supports
  split <;> simp_all
  -- What remains is a letter without an item of this length.
  split <;> simp_all
  all_goals omega

theorem fractionItem_ok_iff {digit : Char} {count : Nat} :
    (∃ item, fractionItem digit count = .ok item) ↔ count ≤ 9 := by
  unfold fractionItem
  split
  next => simp
  next => simp
  next => simp
  next => split <;> simp_all

/-- The digits that a fraction is made of. -/
def IsFractionDigit (digit : Char) : Prop :=
  digit = 'S' ∨ digit = '9'

/-- The rows of atoms whose runs, as long as they go, all stand for something. -/
inductive Supported : List Atom → Prop where
  | nil : Supported []
  | quoted (text : List Char) {rest : List Atom} (later : Supported rest) :
      Supported (.quoted text :: rest)
  | letters {letter : Char} {count : Nat} {rest : List Atom} (isLetter : letter.isAlpha)
      (stands : supports letter (count + 1)) (ends : rest.head? ≠ some (.char letter))
      (later : Supported rest) :
      Supported (.char letter :: List.replicate count (.char letter) ++ rest)
  | fraction {digit : Char} {count : Nat} {rest : List Atom} (isDigit : IsFractionDigit digit)
      (short : count + 1 ≤ 9) (ends : rest.head? ≠ some (.char digit)) (later : Supported rest) :
      Supported (.char '.' :: List.replicate (count + 1) (.char digit) ++ rest)
  | sign {c : Char} {rest : List Atom} (noLetter : c.isAlpha = false)
      (noFraction : c = '.' → ∀ digit, IsFractionDigit digit → rest.head? ≠ some (.char digit))
      (later : Supported rest) : Supported (.char c :: rest)

/-! ## Lengths of runs -/

section

variable {c : Char} {rest : List Atom}

theorem runLength_replicate (count : Nat) (ends : rest.head? ≠ some (.char c)) :
    runLength c (List.replicate count (.char c) ++ rest) = count := by
  have stop : rest.takeWhile (· = .char c) = [] := by
    cases rest with
    | nil => rfl
    | cons first others =>
        have other : first ≠ .char c := by simpa using ends
        simp [other]
  rw [runLength, List.takeWhile_append_of_pos (by simp), stop]
  simp

theorem drop_replicate (count : Nat) :
    (List.replicate count (Atom.char c) ++ rest).drop count = rest :=
  List.drop_left' List.length_replicate

theorem drop_run (count : Nat) (ends : rest.head? ≠ some (.char c)) :
    (List.replicate count (Atom.char c) ++ rest).drop
      (runLength c (List.replicate count (.char c) ++ rest)) = rest := by
  rw [runLength_replicate count ends, drop_replicate]

theorem exists_run (c : Char) (atoms : List Atom) :
    ∃ count rest, atoms = List.replicate count (.char c) ++ rest ∧
      rest.head? ≠ some (.char c) := by
  induction atoms with
  | nil => exact ⟨0, [], rfl, nofun⟩
  | cons first others ih =>
      by_cases same : first = .char c
      · obtain ⟨count, rest, rfl, ends⟩ := ih
        exact ⟨count + 1, rest, by rw [same, List.replicate_succ, List.cons_append], ends⟩
      · exact ⟨0, first :: others, rfl, by simpa using same⟩

end

theorem fractionDigit?_eq_some {atoms : List Atom} {digit : Char} :
    fractionDigit? atoms = some digit ↔
      IsFractionDigit digit ∧ atoms.head? = some (.char digit) := by
  constructor
  · intro found
    unfold fractionDigit? at found
    split at found <;> cases found
    · exact ⟨.inl rfl, rfl⟩
    · exact ⟨.inr rfl, rfl⟩
  · rintro ⟨rfl | rfl, first⟩ <;> obtain ⟨rest, rfl⟩ := List.head?_eq_some_iff.mp first <;> rfl

theorem fractionDigit?_eq_none {atoms : List Atom} :
    fractionDigit? atoms = none ↔
      ∀ digit, IsFractionDigit digit → atoms.head? ≠ some (.char digit) := by
  rw [Option.eq_none_iff_forall_ne_some]
  refine forall_congr' fun digit => ?_
  rw [ne_eq, fractionDigit?_eq_some, not_and]

/-! ## Items of a row -/

section

variable {c letter digit : Char} {count : Nat} {rest : List Atom}

theorem items_quoted (text : List Char) (rest : List Atom) :
    items (.quoted text :: rest) = (do
      let others ← items rest
      pure (literalItems text ++ others)) := by
  rw [items]

theorem items_sign (noLetter : c.isAlpha = false) (none : c = '.' → fractionDigit? rest = none) :
    items (.char c :: rest) = (do
      let others ← items rest
      pure (literalItems [c] ++ others)) := by
  have noDigit : (if c = '.' then fractionDigit? rest else Option.none) = Option.none := by
    split
    next point => exact none point
    next => rfl
  rw [items]
  simp only [noDigit, noLetter]
  rfl

theorem items_letters (isLetter : letter.isAlpha) (ends : rest.head? ≠ some (.char letter)) :
    items (.char letter :: List.replicate count (.char letter) ++ rest) = (do
      let first ← letterItem letter (count + 1)
      let others ← items rest
      pure (first :: others)) := by
  have noPoint : letter ≠ '.' := by
    rintro rfl
    cases isLetter
  rw [List.cons_append, items]
  simp only [if_neg noPoint, isLetter, if_true, runLength_replicate count ends, drop_replicate]

theorem items_fraction (isDigit : IsFractionDigit digit) (ends : rest.head? ≠ some (.char digit)) :
    items (.char '.' :: List.replicate (count + 1) (.char digit) ++ rest) = (do
      let first ← fractionItem digit (count + 1)
      let others ← items rest
      pure (first :: others)) := by
  have found : fractionDigit? (List.replicate (count + 1) (.char digit) ++ rest) = some digit :=
    fractionDigit?_eq_some.mpr ⟨isDigit, rfl⟩
  rw [List.cons_append, items]
  simp only [if_true, found, runLength_replicate (count + 1) ends, drop_replicate]

end

theorem Supported.items {atoms : List Atom} (supported : Supported atoms) :
    ∃ row, Date.items atoms = .ok row := by
  induction supported with
  | nil => exact ⟨[], by rw [Date.items]⟩
  | @quoted text rest _ ih =>
      obtain ⟨others, later⟩ := ih
      exact ⟨literalItems text ++ others, by rw [items_quoted, later]; rfl⟩
  | letters isLetter stands ends _ ih =>
      obtain ⟨others, later⟩ := ih
      obtain ⟨first, here⟩ := letterItem_ok_iff (Nat.succ_pos _) |>.mpr stands
      exact ⟨first :: others, by rw [items_letters isLetter ends, here, later]; rfl⟩
  | @fraction digit _ _ isDigit short ends _ ih =>
      obtain ⟨others, later⟩ := ih
      obtain ⟨first, here⟩ := (@fractionItem_ok_iff digit _).mpr short
      exact ⟨first :: others, by rw [items_fraction isDigit ends, here, later]; rfl⟩
  | @sign c rest noLetter noFraction _ ih =>
      obtain ⟨others, later⟩ := ih
      have none := fun point => fractionDigit?_eq_none.mpr (noFraction point)
      exact ⟨literalItems [c] ++ others, by rw [items_sign noLetter none, later]; rfl⟩

theorem supported_of_items {atoms : List Atom} {row : List Item} (read : items atoms = .ok row) :
    Supported atoms := by
  induction atoms using Date.items.induct generalizing row with
  | case1 => exact .nil
  | case2 text rest ih =>
      rw [items_quoted] at read
      obtain ⟨others, later, -⟩ := Outcome.bind_eq_ok.mp read
      exact .quoted text (ih later)
  | case3 c rest digit found =>
      rename_i _ ih
      split at found
      next point =>
        subst point
        obtain ⟨isDigit, leads⟩ := fractionDigit?_eq_some.mp found
        obtain ⟨count, more, rfl, ends⟩ := exists_run digit rest
        cases count with
        | zero => exact absurd leads ends
        | succ count =>
            simp +zetaDelta only [drop_run _ ends] at ih
            rw [← List.cons_append, items_fraction isDigit ends] at read
            obtain ⟨item, here, read⟩ := Outcome.bind_eq_ok.mp read
            obtain ⟨others, later, -⟩ := Outcome.bind_eq_ok.mp read
            exact .fraction isDigit (fractionItem_ok_iff.mp ⟨item, here⟩) ends (ih later)
      next => cases found
  | case4 c rest unpointed isLetter =>
      rename_i _ ih
      obtain ⟨count, more, rfl, ends⟩ := exists_run c rest
      simp +zetaDelta only [drop_run _ ends] at ih
      rw [← List.cons_append, items_letters isLetter ends] at read
      obtain ⟨item, here, read⟩ := Outcome.bind_eq_ok.mp read
      obtain ⟨others, later, -⟩ := Outcome.bind_eq_ok.mp read
      exact .letters isLetter ((letterItem_ok_iff (Nat.succ_pos count)).mp ⟨item, here⟩) ends
        (ih later)
  | case5 c rest unpointed other ih =>
      have noLetter := Bool.eq_false_iff.mpr other
      have noDigit : c = '.' → fractionDigit? rest = none := by
        intro point
        simpa [point] using unpointed
      rw [items_sign noLetter noDigit] at read
      obtain ⟨others, later, -⟩ := Outcome.bind_eq_ok.mp read
      exact .sign noLetter (fun point => fractionDigit?_eq_none.mp (noDigit point)) (ih later)

end StoreSchema.Date
