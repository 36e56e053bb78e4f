import StoreSchema.Proofs.Date.Expanding
import StoreSchema.Proofs.Date.Literals

/-! # Texts in quotes

A text in quotes, with its own quotes doubled, is a pattern with one layout, which writes the text.
Two quotes in a row always stand for one, so that a quote at the front of the text is read together
with the one in front of it, and those that lead the text become literals of their own. Where
nothing but quotes follows, the last one is paired as well, and the layout writes one quote more.
-/

namespace StoreSchema.Date

/-! ## Rows of atoms -/

/-- The parts of a row of atoms without sections. -/
def plainParts (atoms : List Atom) : List Part :=
  atoms.map .atom

variable {atoms : List Atom}

theorem choices_plainParts (atoms : List Atom) : choices (plainParts atoms) = [atoms] := by
  induction atoms with
  | nil => rfl
  | cons atom rest ih =>
      rw [plainParts, List.map_cons, choices_atom, ← plainParts, ih, List.map_singleton]

theorem sections_plainParts (atoms : List Atom) : sections (plainParts atoms) = 0 := by
  induction atoms with
  | nil => rfl
  | cons atom rest ih =>
      rw [plainParts, List.map_cons, sections, ← plainParts, ih, Part.sections]

theorem expand_plain {pattern : List Char} {row : List Item}
    (spells : Spells pattern (plainParts atoms)) (nonempty : atoms ≠ [])
    (made : items atoms = .ok row) : expand pattern = .ok [⟨row⟩] := by
  have read : parts pattern = .ok (plainParts atoms) := by
    refine parts_eq_ok.mpr ⟨spells, ?_⟩
    rw [sections_plainParts]
    exact Nat.zero_le _
  have alone : filled (plainParts atoms) = [atoms] := by
    rw [filled, choices_plainParts, List.filter_cons_of_pos (by simpa using nonempty), List.filter_nil,
      List.mergeSort_singleton]
  have built : layoutsOf (filled (plainParts atoms)) = .ok [⟨row⟩] := by
    rw [alone]
    exact layoutsOf_eq_ok.mpr (.cons made .nil)
  exact expand_eq_ok.mpr ⟨plainParts atoms, [⟨row⟩], read, built, rfl, List.cons_ne_nil _ _⟩

theorem items_literals (literals : List (List Char)) :
    items (literals.map .quoted) = .ok (literals.flatMap literalItems) := by
  induction literals with
  | nil => rw [List.map_nil, items, List.flatMap_nil]
  | cons literal rest ih =>
      rw [List.map_cons, items_quoted, ih, List.flatMap_cons]
      rfl

/-! ## Quotes around a text -/

/-- The pattern of a text in quotes, with its own quotes doubled. -/
def enclosed (text : List Char) : List Char :=
  '\x27' :: doubled text ++ ['\x27']

/-- The literals that a text in quotes is read as. -/
def literals : List Char → List (List Char)
  | [] => [['\x27']]
  | c :: rest => if c = '\x27' then ['\x27'] :: literals rest else [c :: rest]

/-- A quote that leads the text pairs with the one in front of it, and leaves the rest of the text
    in quotes. -/
theorem spells_enclosed (text : List Char) :
    Spells (enclosed text) (plainParts ((literals text).map .quoted)) := by
  induction text with
  | nil =>
      have paired : enclosed [] = ['\x27', '\x27'] ++ [] := rfl
      rw [paired]
      exact .atom (.quote []) .nil
  | cons c rest ih =>
      rw [literals]
      split
      next quote =>
        have paired : enclosed (c :: rest) = ['\x27', '\x27'] ++ enclosed rest := by
          simp [enclosed, doubled_cons, quote]
        rw [paired]
        exact .atom (.quote _) ih
      next other =>
        have written : Written (.quoted (c :: rest)) (enclosed (c :: rest)) [] :=
          .quoted (List.cons_ne_nil c rest) (by simpa using other) nofun
        have spells := Spells.atom written .nil
        rwa [List.append_nil] at spells

theorem literals_ne_nil (text : List Char) : literals text ≠ [] := by
  cases text with
  | nil => exact List.cons_ne_nil _ _
  | cons c rest =>
      rw [literals]
      split <;> exact List.cons_ne_nil _ _

theorem flatten_literals (text : List Char) :
    (literals text).flatten = if text.all (· == '\x27') then '\x27' :: text else text := by
  induction text with
  | nil => rfl
  | cons c rest ih =>
      rw [literals]
      split
      next quote =>
        rw [List.flatten_cons, ih, List.all_cons, quote, beq_self_eq_true, Bool.true_and]
        split <;> rfl
      next other => simp [other]

/-- The layout of a text in quotes. -/
def enclosedLayout (text : List Char) : Layout :=
  ⟨(literals text).flatMap literalItems⟩

theorem expand_enclosed (text : List Char) : expand (enclosed text) = .ok [enclosedLayout text] :=
  expand_plain (spells_enclosed text) (mt List.map_eq_nil_iff.mp (literals_ne_nil text))
    (items_literals (literals text))

theorem print_enclosedLayout (text : List Char) (moment : Moment) :
    (enclosedLayout text).print moment = (literals text).flatten := by
  rw [Layout.print, enclosedLayout, List.flatMap_assoc]
  simp only [print_literalItems]
  exact List.flatMap_id'

end StoreSchema.Date

namespace StoreSchema

open Date in
/-- A text in quotes, with its own quotes doubled, is a pattern with one layout. At every moment the
    layout writes the text, unless it is made of quotes alone: then it writes one quote more. -/
theorem enclosed_texts_are_written (text : List Char) :
    ∃ layout, expand (enclosed text) = .ok [layout] ∧
      ∀ moment, layout.print moment =
        if text.all (· == '\x27') then '\x27' :: text else text := by
  refine ⟨enclosedLayout text, expand_enclosed text, fun moment => ?_⟩
  rw [print_enclosedLayout, flatten_literals]

open Date in
/-- One quote in quotes is four of them, which are read as two pairs, and each pair writes one. -/
theorem sample_quote_is_written_twice :
    enclosed ['\x27'] = ['\x27', '\x27', '\x27', '\x27'] ∧
      ∃ layout, expand (enclosed ['\x27']) = .ok [layout] ∧
        ∀ moment, layout.print moment = ['\x27', '\x27'] ∧ layout.print moment ≠ ['\x27'] := by
  refine ⟨rfl, enclosedLayout ['\x27'], expand_enclosed ['\x27'], fun moment => ?_⟩
  have twice : (enclosedLayout ['\x27']).print moment = ['\x27', '\x27'] :=
    print_enclosedLayout ['\x27'] moment
  rw [twice]
  exact ⟨rfl, by decide⟩

end StoreSchema
