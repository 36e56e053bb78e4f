import StoreSchema.Proofs.Date.Sections

/-! # Spelling a pattern

A pattern is balanced if it spells a row of parts: a section stands between brackets, and a literal
between quotes, where each quote of its own is doubled. Two quotes alone stand for one. A pattern
spells one row of parts at most, and it is read as that row.
-/

namespace StoreSchema.Date

/-! ## Quotes -/

/-- A text with each quote doubled. -/
def doubled (text : List Char) : List Char :=
  text.flatMap fun c => if c = '\x27' then ['\x27', '\x27'] else [c]

variable {text back literal : List Char} {atom : Atom} {row : List Mark}

/-- A character that stands for itself outside of quotes. -/
def Unmarked (c : Char) : Prop :=
  c ≠ '\x27' ∧ c ≠ '[' ∧ c ≠ ']'

theorem marks_char {c : Char} (unmarked : Unmarked c) (text : List Char) :
    marks (c :: text) = .atom (.char c) :: marks text := by
  obtain ⟨noQuote, noOpening, noClosing⟩ := unmarked
  rw [marks]
  · exact fun rest same => absurd same noQuote
  · exact fun same => absurd same noQuote
  · exact fun same => absurd same noOpening
  · exact fun same => absurd same noClosing

theorem marks_quote (single : text.head? ≠ some '\x27') :
    marks ('\x27' :: text) = quotedMarks [] text := by
  rw [marks]
  rintro rest rfl
  exact single rfl

theorem quotedMarks_close (single : back.head? ≠ some '\x27') (literal : List Char) :
    quotedMarks literal ('\x27' :: back) = .atom (.quoted literal) :: marks back := by
  rw [quotedMarks]
  rintro rest rfl
  exact single rfl

theorem quotedMarks_char {c : Char} (other : c ≠ '\x27') (literal text : List Char) :
    quotedMarks literal (c :: text) = quotedMarks (literal ++ [c]) text := by
  rw [quotedMarks]
  · exact fun rest same => absurd same other
  · exact fun same => absurd same other

theorem doubled_cons (c : Char) (text : List Char) :
    doubled (c :: text) = (if c = '\x27' then ['\x27', '\x27'] else [c]) ++ doubled text :=
  List.flatMap_cons

theorem quotedMarks_doubled (single : back.head? ≠ some '\x27') (literal before : List Char) :
    quotedMarks before (doubled literal ++ '\x27' :: back) =
      .atom (.quoted (before ++ literal)) :: marks back := by
  induction literal generalizing before with
  | nil => simpa [doubled] using quotedMarks_close single before
  | cons c rest ih =>
      rw [doubled_cons]
      split
      next quote =>
        simp only [quote, List.cons_append, List.nil_append]
        rw [quotedMarks, ih]
        simp
      next other =>
        rw [List.append_assoc, List.singleton_append, quotedMarks_char other, ih]
        simp

theorem quotedMarks_cases (before text : List Char) :
    (∃ literal, text = doubled literal ∧ quotedMarks before text = [.unterminated]) ∨
      ∃ literal back, text = doubled literal ++ '\x27' :: back ∧ back.head? ≠ some '\x27' ∧
        quotedMarks before text = .atom (.quoted (before ++ literal)) :: marks back := by
  induction length : text.length using Nat.strongRecOn generalizing text before with
  | ind size ih =>
      subst length
      cases text with
      | nil => exact .inl ⟨[], rfl, by rw [quotedMarks]⟩
      | cons c rest =>
          by_cases quote : c = '\x27'
          · subst quote
            by_cases twice : rest.head? = some '\x27'
            · obtain ⟨rest, rfl⟩ := List.head?_eq_some_iff.mp twice
              rw [quotedMarks]
              refine (ih rest.length (by simp only [List.length_cons]; omega) (before ++ ['\x27']) rest
                rfl).imp ?_ ?_
              · rintro ⟨literal, rfl, read⟩
                exact ⟨'\x27' :: literal, by simp [doubled_cons], read⟩
              · rintro ⟨literal, back, rfl, single, read⟩
                exact ⟨'\x27' :: literal, back, by simp [doubled_cons], single, by simp [read]⟩
            · exact .inr ⟨[], rest, rfl, twice, by simp [quotedMarks_close twice]⟩
          · rw [quotedMarks_char quote]
            refine (ih rest.length (by simp) (before ++ [c]) rest rfl).imp ?_ ?_
            · rintro ⟨literal, rfl, read⟩
              exact ⟨c :: literal, by simp [doubled_cons, quote], read⟩
            · rintro ⟨literal, back, rfl, single, read⟩
              exact ⟨c :: literal, back, by simp [doubled_cons, quote], single, by simp [read]⟩

/-! ## Marks -/

/-- What a single sign of a pattern is written as, in front of a text: a character that stands for
    itself, two quotes for one, or a literal in quotes. A literal does not begin with a quote, and
    none follows it, as two quotes in a row always stand for one. -/
inductive Written : Atom → List Char → List Char → Prop where
  | char {c : Char} (unmarked : Unmarked c) (back : List Char) : Written (.char c) [c] back
  | quote (back : List Char) : Written (.quoted ['\x27']) ['\x27', '\x27'] back
  | quoted {literal back : List Char} (nonempty : literal ≠ [])
      (leading : literal.head? ≠ some '\x27') (single : back.head? ≠ some '\x27') :
      Written (.quoted literal) ('\x27' :: doubled literal ++ ['\x27']) back

theorem marks_written (written : Written atom text back) :
    marks (text ++ back) = .atom atom :: marks back := by
  cases written with
  | char unmarked => exact marks_char unmarked back
  | quote => rw [List.cons_append, List.cons_append, List.nil_append, marks]
  | @quoted literal _ nonempty leading single =>
      have first : (doubled literal ++ '\x27' :: back).head? ≠ some '\x27' := by
        cases literal with
        | nil => exact absurd rfl nonempty
        | cons c rest =>
            have other : c ≠ '\x27' := by simpa using leading
            simp [doubled_cons, other]
      simp only [List.cons_append, List.append_assoc, List.nil_append]
      rw [marks_quote first, quotedMarks_doubled single, List.nil_append]

/-- What the marks of a text begin with, by what stands in front of it. -/
inductive Begins : List Char → List Mark → Prop where
  | nil : Begins [] []
  | atom {atom : Atom} {front back : List Char} (written : Written atom front back) :
      Begins (front ++ back) (.atom atom :: marks back)
  | opening (back : List Char) : Begins ('[' :: back) (.opening :: marks back)
  | closing (back : List Char) : Begins (']' :: back) (.closing :: marks back)
  | unterminated (literal : List Char) : Begins ('\x27' :: doubled literal) [.unterminated]

theorem begins (text : List Char) : Begins text (marks text) := by
  cases text with
  | nil => exact .nil
  | cons c rest =>
      by_cases unmarked : Unmarked c
      · rw [marks_char unmarked]
        exact .atom (.char unmarked rest)
      · by_cases quote : c = '\x27'
        · subst quote
          by_cases twice : rest.head? = some '\x27'
          · obtain ⟨rest, rfl⟩ := List.head?_eq_some_iff.mp twice
            rw [marks]
            exact .atom (.quote rest)
          · rw [marks_quote twice]
            rcases quotedMarks_cases [] rest with ⟨literal, rfl, read⟩ |
              ⟨literal, back, rfl, single, read⟩
            · rw [read]
              exact .unterminated literal
            · have nonempty : literal ≠ [] := by
                rintro rfl
                exact twice rfl
              have leading : literal.head? ≠ some '\x27' := by
                intro leading
                obtain ⟨others, rfl⟩ := List.head?_eq_some_iff.mp leading
                exact twice (by simp [doubled_cons])
              rw [read, List.nil_append]
              simpa using Begins.atom (.quoted nonempty leading single)
        · have bracket : c = '[' ∨ c = ']' := by
            unfold Unmarked at unmarked
            tauto
          rcases bracket with rfl | rfl
          · exact .opening rest
          · exact .closing rest

theorem eq_nil_of_marks (read : marks text = []) : text = [] := by
  have front := begins text
  rw [read] at front
  cases front
  rfl

theorem written_of_marks (read : marks text = .atom atom :: row) :
    ∃ front back, text = front ++ back ∧ Written atom front back ∧ marks back = row := by
  have front := begins text
  rw [read] at front
  cases front with
  | atom written => exact ⟨_, _, rfl, written, rfl⟩

theorem opening_of_marks (read : marks text = .opening :: row) :
    ∃ back, text = '[' :: back ∧ marks back = row := by
  have front := begins text
  rw [read] at front
  cases front with
  | opening back => exact ⟨back, rfl, rfl⟩

theorem closing_of_marks (read : marks text = .closing :: row) :
    ∃ back, text = ']' :: back ∧ marks back = row := by
  have front := begins text
  rw [read] at front
  cases front with
  | closing back => exact ⟨back, rfl, rfl⟩

/-! ## Patterns -/

/-- A pattern spells a row of parts, where all its brackets and quotes are balanced. -/
inductive Spells : List Char → List Part → Prop where
  | nil : Spells [] []
  | atom {atom : Atom} {front back : List Char} {rest : List Part}
      (written : Written atom front back) (later : Spells back rest) :
      Spells (front ++ back) (.atom atom :: rest)
  | optional {within back : List Char} {inner rest : List Part} (inside : Spells within inner)
      (later : Spells back rest) :
      Spells ('[' :: within ++ ']' :: back) (.optional inner :: rest)

variable {tree : List Part} {front : List Char}

theorem Written.append (written : Written atom front text) (single : back.head? ≠ some '\x27') :
    Written atom front (text ++ back) := by
  cases written with
  | char unmarked => exact .char unmarked _
  | quote => exact .quote _
  | quoted nonempty leading here =>
      refine .quoted nonempty leading ?_
      cases text with
      | nil => exact single
      | cons c rest => exact here

theorem Written.of_append (written : Written atom front (text ++ back)) :
    Written atom front text := by
  cases written with
  | char unmarked => exact .char unmarked _
  | quote => exact .quote _
  | quoted nonempty leading single =>
      refine .quoted nonempty leading ?_
      cases text with
      | nil => nofun
      | cons c rest => exact single

theorem Spells.marks (spells : Spells text tree) (single : back.head? ≠ some '\x27') :
    Date.marks (text ++ back) = treeMarks tree ++ Date.marks back := by
  induction spells generalizing back with
  | nil => rfl
  | atom written _ ih =>
      rw [List.append_assoc, marks_written (written.append single), ih single]
      rfl
  | @optional within further inner rest _ _ inside ih =>
      have closing : (']' :: (further ++ back)).head? ≠ some '\x27' := by simp
      simp only [List.cons_append, List.append_assoc, treeMarks, Part.marks, List.nil_append]
      rw [Date.marks, inside closing, Date.marks, ih single]

theorem spells_of_marks (read : marks text = treeMarks tree ++ row) :
    ∃ front back, text = front ++ back ∧ Spells front tree ∧ marks back = row := by
  induction tree using partsInduction generalizing text row with
  | nil => exact ⟨[], text, rfl, .nil, read⟩
  | atom atom rest ih =>
      obtain ⟨front, back, rfl, written, later⟩ := written_of_marks read
      obtain ⟨more, back, rfl, spells, last⟩ := ih later
      exact ⟨front ++ more, back, by simp, .atom written.of_append spells, last⟩
  | optional inner rest within ih =>
      simp only [treeMarks, Part.marks, List.cons_append, List.append_assoc,
        List.nil_append] at read
      obtain ⟨opened, rfl, content⟩ := opening_of_marks read
      obtain ⟨front, closed, rfl, inside, behind⟩ := within content
      obtain ⟨further, rfl, later⟩ := closing_of_marks behind
      obtain ⟨more, back, rfl, spells, last⟩ := ih later
      exact ⟨'[' :: front ++ ']' :: more, back, by simp, .optional inside spells, last⟩

theorem nest_marks_eq_ok : nest [] [] (marks text) = .ok tree ↔ Spells text tree := by
  rw [nest_eq_ok]
  constructor
  · intro read
    obtain ⟨front, back, rfl, spells, none⟩ := spells_of_marks (read.trans (List.append_nil _).symm)
    rw [eq_nil_of_marks none, List.append_nil]
    exact spells
  · intro spells
    have single : ([] : List Char).head? ≠ some '\x27' := nofun
    simpa [marks] using spells.marks single

/-- A pattern is read as the row of parts that it spells, unless that has too many sections. -/
theorem parts_eq_ok : parts text = .ok tree ↔ Spells text tree ∧ sections tree ≤ sectionLimit := by
  rw [parts, Outcome.bind_eq_ok]
  constructor
  · rintro ⟨found, read, within⟩
    split at within
    next => cases within
    next few =>
      cases within
      rw [nest_eq_ok.mp read, count_treeMarks] at few
      exact ⟨nest_marks_eq_ok.mp read, Nat.le_of_not_lt few⟩
  · rintro ⟨spells, few⟩
    have read := nest_marks_eq_ok.mpr spells
    refine ⟨tree, read, ?_⟩
    rw [nest_eq_ok.mp read, count_treeMarks, if_neg (Nat.not_lt.mpr few)]
    rfl

theorem Spells.unique {other : List Part} (spells : Spells text tree) (again : Spells text other) :
    tree = other := by
  have read := nest_marks_eq_ok.mpr spells
  rw [nest_marks_eq_ok.mpr again] at read
  exact (Except.ok.inj read).symm

/-! ## Balance -/

/-- Whether quotes and brackets are balanced, inside a literal or not, and with some sections open
    already. Every quote begins or ends a literal, and brackets count where no literal stands. -/
def balanced (inLiteral : Bool) (depth : Nat) : List Char → Bool
  | [] => !inLiteral && depth == 0
  | c :: rest =>
    if c = '\x27' then balanced (!inLiteral) depth rest
    else if inLiteral then balanced inLiteral depth rest
    else if c = '[' then balanced inLiteral (depth + 1) rest
    else if c = ']' then depth != 0 && balanced inLiteral (depth - 1) rest
    else balanced inLiteral depth rest

theorem balanced_doubled (depth : Nat) (literal text : List Char) :
    balanced true depth (doubled literal ++ text) = balanced true depth text := by
  induction literal with
  | nil => rfl
  | cons c rest ih =>
      rw [doubled_cons]
      split
      next => simpa [balanced] using ih
      next other => simpa [balanced, other] using ih

theorem balanced_written (written : Written atom front back) (depth : Nat) :
    balanced false depth (front ++ back) = balanced false depth back := by
  cases written with
  | char unmarked =>
      obtain ⟨noQuote, noOpening, noClosing⟩ := unmarked
      simp [balanced, noQuote, noOpening, noClosing]
  | quote => simp [balanced]
  | quoted => simp [balanced, balanced_doubled]

theorem nest_marks_isOk (around : List (List Part)) (current : List Part) (text : List Char) :
    (∃ tree, nest around current (marks text) = .ok tree) ↔ balanced false around.length text := by
  induction length : text.length using Nat.strongRecOn generalizing text around current with
  | ind size ih =>
      subst length
      have front := begins text
      generalize marks text = row at front
      cases front with
      | nil => cases around <;> simp [nest, balanced]
      | @atom atom front back written =>
          have nonempty : front ≠ [] := by cases written <;> simp
          have shorter : back.length < (front ++ back).length := by
            have positive := List.length_pos_of_ne_nil nonempty
            rw [List.length_append]
            omega
          rw [balanced_written written]
          exact ih _ shorter around _ back rfl
      | opening back =>
          simpa [nest, balanced] using ih back.length (by simp) (current :: around) [] back rfl
      | closing back =>
          cases around with
          | nil => simp [nest, balanced]
          | cons outer around =>
              simpa [nest, balanced] using
                ih back.length (by simp) around (outer ++ [.optional current]) back rfl
      | unterminated literal =>
          have inside := balanced_doubled around.length literal []
          rw [List.append_nil] at inside
          simp [nest, balanced, inside]

/-- A pattern spells something if and only if its quotes and brackets are balanced. -/
theorem exists_spells_iff : (∃ tree, Spells text tree) ↔ balanced false 0 text := by
  rw [← List.length_nil, ← nest_marks_isOk [] []]
  exact exists_congr fun tree => nest_marks_eq_ok.symm

end StoreSchema.Date
