import StoreSchema.Date.Print
import StoreSchema.Proofs.Date.Runs

/-! # Literals in pieces

A literal falls into items, where runs of white space and percent signs stand alone. However it
does, the items hold its text sign by sign, so that cutting them into single signs leaves nothing of
the way in which the text was divided.
-/

namespace StoreSchema.Date

/-! ## Single signs -/

/-- The item of a sign that stands alone. -/
def Item.ofSign (c : Char) : Item :=
  if Text.isBlank c then .space [c] else .literal [c]

/-- The items that an item is cut into: one for each sign of the text that it holds, or itself. -/
def Item.units : Item → List Item
  | .literal text | .space text => text.map Item.ofSign
  | item => [item]

/-- What items of patterns are like: literals hold no white space, and white space is not empty and
    nothing else. -/
def Item.Proper : Item → Prop
  | .literal text => ∀ c ∈ text, Text.isBlank c = false
  | .space text => text ≠ [] ∧ ∀ c ∈ text, Text.isBlank c
  | _ => True

/-- Ways to put a sign in front of the items of a text: as an item of its own, or as the first sign
    of an item of its kind. -/
inductive Joins (c : Char) : List Item → List Item → Prop where
  | alone (items : List Item) : Joins c items (.ofSign c :: items)
  | space (blank : Text.isBlank c) (text : List Char) (items : List Item) :
      Joins c (.space text :: items) (.space (c :: text) :: items)
  | literal (shown : Text.isBlank c = false) (text : List Char) (items : List Item) :
      Joins c (.literal text :: items) (.literal (c :: text) :: items)

theorem LiteralClass.of_eq_blank {c : Char} : LiteralClass.of c = .blank ↔ Text.isBlank c := by
  unfold LiteralClass.of
  split
  next blank => exact iff_of_true rfl blank
  next shown => split <;> exact iff_of_false nofun shown

theorem ofSign_blank {c : Char} (kind : LiteralClass.of c = .blank) : Item.ofSign c = .space [c] :=
  if_pos (LiteralClass.of_eq_blank.mp kind)

theorem ofSign_shown {c : Char} (kind : LiteralClass.of c ≠ .blank) :
    Item.ofSign c = .literal [c] :=
  if_neg (mt LiteralClass.of_eq_blank.mpr kind)

theorem literalItems_joins (c : Char) (rest : List Char) :
    Joins c (literalItems rest) (literalItems (c :: rest)) := by
  have alone : Joins c (literalItems rest) (.ofSign c :: literalItems rest) := .alone _
  generalize made : literalItems (c :: rest) = items
  unfold literalItems at made
  split at made
  next kind found =>
    rw [found, ← made]
    exact .space (LiteralClass.of_eq_blank.mp kind) _ _
  next kind _ =>
    rw [ofSign_blank kind] at alone
    exact made ▸ alone
  next kind =>
    rw [ofSign_shown (by simp [kind])] at alone
    exact made ▸ alone
  next kind found =>
    have shown : LiteralClass.of c ≠ .blank := by simp [kind]
    split at made
    next =>
      rw [ofSign_shown shown, found] at alone
      exact made ▸ found ▸ alone
    next =>
      rw [found, ← made]
      exact .literal (Bool.eq_false_iff.mpr (mt LiteralClass.of_eq_blank.mpr shown)) _ _
  next kind _ =>
    rw [ofSign_shown (by simp [kind])] at alone
    exact made ▸ alone

theorem units_ofSign (c : Char) : (Item.ofSign c).units = [.ofSign c] := by
  unfold Item.ofSign
  split
  next blank => simp [Item.units, Item.ofSign, blank]
  next shown => simp [Item.units, Item.ofSign, shown]

theorem proper_ofSign (c : Char) : (Item.ofSign c).Proper := by
  unfold Item.ofSign
  split
  next blank => simp [Item.Proper, blank]
  next shown => simpa [Item.Proper] using shown

theorem units_literalItems (text : List Char) :
    (literalItems text).flatMap Item.units = text.map Item.ofSign := by
  induction text with
  | nil => rfl
  | cons c rest ih =>
      rw [List.map_cons, ← ih]
      have joins := literalItems_joins c rest
      generalize literalItems rest = before, literalItems (c :: rest) = items at joins
      cases joins with
      | alone => rw [List.flatMap_cons, units_ofSign, List.singleton_append]
      | space | literal => rfl

theorem proper_literalItems (text : List Char) : ∀ item ∈ literalItems text, item.Proper := by
  induction text with
  | nil => exact List.forall_mem_nil _
  | cons c rest ih =>
      have joins := literalItems_joins c rest
      generalize literalItems rest = before, literalItems (c :: rest) = items at ih joins ⊢
      cases joins with
      | alone => exact List.forall_mem_cons.mpr ⟨proper_ofSign c, ih⟩
      | space blank text others =>
          obtain ⟨⟨-, all⟩, later⟩ := List.forall_mem_cons.mp ih
          have proper : (Item.space (c :: text)).Proper :=
            ⟨List.cons_ne_nil c text, List.forall_mem_cons.mpr ⟨blank, all⟩⟩
          exact List.forall_mem_cons.mpr ⟨proper, later⟩
      | literal shown text others =>
          obtain ⟨all, later⟩ := List.forall_mem_cons.mp ih
          have proper : (Item.literal (c :: text)).Proper := List.forall_mem_cons.mpr ⟨shown, all⟩
          exact List.forall_mem_cons.mpr ⟨proper, later⟩

/-! ## Items of patterns -/

theorem proper_letterItem {letter : Char} {count : Nat} {item : Item}
    (read : letterItem letter count = .ok item) : item.Proper := by
  unfold letterItem at read
  split at read <;> cases read <;> trivial

theorem proper_fractionItem {digit : Char} {count : Nat} {item : Item}
    (read : fractionItem digit count = .ok item) : item.Proper := by
  unfold fractionItem at read
  split at read
  on_goal 4 => split at read
  all_goals cases read
  all_goals trivial

theorem proper_items {atoms : List Atom} {row : List Item} (read : items atoms = .ok row) :
    ∀ item ∈ row, item.Proper := by
  induction supported_of_items read generalizing row with
  | nil =>
      rw [items] at read
      cases read
      exact List.forall_mem_nil _
  | quoted text _ ih =>
      rw [items_quoted] at read
      obtain ⟨others, later, same⟩ := Outcome.bind_eq_ok.mp read
      cases same
      exact List.forall_mem_append.mpr ⟨proper_literalItems text, ih later⟩
  | letters isLetter _ ends _ ih =>
      rw [items_letters isLetter ends] at read
      obtain ⟨first, here, read⟩ := Outcome.bind_eq_ok.mp read
      obtain ⟨others, later, same⟩ := Outcome.bind_eq_ok.mp read
      cases same
      exact List.forall_mem_cons.mpr ⟨proper_letterItem here, ih later⟩
  | fraction isDigit _ ends _ ih =>
      rw [items_fraction isDigit ends] at read
      obtain ⟨first, here, read⟩ := Outcome.bind_eq_ok.mp read
      obtain ⟨others, later, same⟩ := Outcome.bind_eq_ok.mp read
      cases same
      exact List.forall_mem_cons.mpr ⟨proper_fractionItem here, ih later⟩
  | @sign c _ noLetter noFraction _ ih =>
      rw [items_sign noLetter fun point => fractionDigit?_eq_none.mpr (noFraction point)] at read
      obtain ⟨others, later, same⟩ := Outcome.bind_eq_ok.mp read
      cases same
      exact List.forall_mem_append.mpr ⟨proper_literalItems [c], ih later⟩

/-! ## What literals write -/

variable {time : Moment.Local} {offset : Int}

theorem print_ofSign (c : Char) : (Item.ofSign c).print time offset = [c] := by
  unfold Item.ofSign
  split <;> rfl

theorem print_signs (text : List Char) :
    (text.map Item.ofSign).flatMap (Item.print time offset) = text := by
  rw [List.flatMap_map]
  simp only [print_ofSign, List.flatMap_singleton']

theorem print_units (item : Item) :
    item.units.flatMap (Item.print time offset) = item.print time offset := by
  cases item with
  | literal text | space text => exact print_signs text
  | _ => exact List.flatMap_singleton _ _

theorem print_literalItems (text : List Char) :
    (literalItems text).flatMap (Item.print time offset) = text := by
  calc
    (literalItems text).flatMap (Item.print time offset)
      = (literalItems text).flatMap fun item => item.units.flatMap (Item.print time offset) := by
        simp only [print_units]
    _ = ((literalItems text).flatMap Item.units).flatMap (Item.print time offset) :=
        List.flatMap_assoc.symm
    _ = text := by rw [units_literalItems, print_signs]

end StoreSchema.Date
