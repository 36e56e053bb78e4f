import StoreSchema.Proofs.Naming.FirstFree
import StoreSchema.Proofs.Naming.Identifiers

/-! # Reserved words

No identifier and no name may be a reserved word. The identifiers of members keep clear of the words
that are marked, but not all reserved words are. The names of types are not compared with any words:
they begin with no small letter, which leaves one reserved word for them to be.
-/

namespace StoreSchema

namespace Text

theorem head_mapCase {code : Nat} (beyond : 0x80 ≤ code) :
    ∃ first rest, mapCase capitalRuns longCapitals code = first :: rest ∧
      (first < 0x61 ∨ 0x7a < first) := by
  have runs : ∀ run ∈ capitalRuns,
      run.2.2.2 + (run.2.1 - run.1) < 0x61 ∨ 0x7a < run.2.2.2 := by
    have all : (capitalRuns.all fun run =>
        run.2.2.2 + (run.2.1 - run.1) < 0x61 ∨ 0x7a < run.2.2.2) = true := by decide +kernel
    simpa using Array.all_eq_true_iff_forall_mem.mp all
  have long : ∀ entry ∈ longCapitals, ∃ first rest, entry.2 = first :: rest ∧
      (first < 0x61 ∨ 0x7a < first) := by
    have all : (longCapitals.all fun entry =>
        entry.2.head?.any fun first => first < 0x61 ∨ 0x7a < first) = true := by decide +kernel
    intro entry inside
    have head := Array.all_eq_true_iff_forall_mem.mp all entry inside
    cases codes : entry.2 with
    | nil => simp [codes] at head
    | cons first rest => exact ⟨first, rest, rfl, by simpa [codes] using head⟩
  unfold mapCase
  split
  next origin codes found => exact long _ (Array.mem_of_find?_eq_some found)
  next =>
    split
    next first last stride target found =>
      have outside := runs _ (Array.mem_of_find?_eq_some found)
      have covered := Array.find?_some found
      simp only [Bool.and_eq_true, decide_eq_true_eq] at covered
      refine ⟨_, _, rfl, ?_⟩
      dsimp only at outside
      omega
    next => exact ⟨code, [], rfl, by omega⟩

theorem head_toCapital (c : Char) :
    ∃ first rest, toCapital c = first :: rest ∧ first.isLower = false := by
  unfold toCapital
  split
  next ascii =>
    have each : ∀ code < 0x80, (Char.ofNat code).toUpper.isLower = false := by decide +kernel
    have here := each c.toNat ascii
    rw [Char.ofNat_toNat] at here
    exact ⟨c.toUpper, [], rfl, here⟩
  next beyond =>
    obtain ⟨code, codes, same, outside⟩ := head_mapCase (Nat.le_of_not_lt beyond)
    rw [same]
    refine ⟨Char.ofNat code, _, rfl, ?_⟩
    rw [Bool.eq_false_iff]
    intro small
    have range : ((Char.ofNat code).val ≥ 'a'.val && (Char.ofNat code).val ≤ 'z'.val) = true :=
      small
    simp only [Bool.and_eq_true, decide_eq_true_eq, ge_iff_le, UInt32.le_iff_toNat_le] at range
    have size := toNat_ofNat code
    simp only [Char.toNat, Char.reduceVal, UInt32.reduceToNat] at range size
    split at size <;> omega

end Text

namespace Naming

/-! ## Words -/

/-- The words with a meaning of their own. -/
def usedWords : List String :=
  ["as", "async", "await", "break", "const", "continue", "crate", "dyn", "else", "enum", "extern",
   "false", "fn", "for", "if", "impl", "in", "let", "loop", "match", "mod", "move", "mut", "pub",
   "ref", "return", "self", "Self", "static", "struct", "super", "trait", "true", "type", "unsafe",
   "use", "where", "while"]

/-- The words that are kept for a meaning to come. -/
def keptWords : List String :=
  ["abstract", "become", "box", "do", "final", "gen", "macro", "override", "priv", "try", "typeof",
   "unsized", "virtual", "yield"]

/-- The words that no identifier may be. -/
def reservedWords : List String :=
  usedWords ++ keptWords

/-- The words that stay reserved behind a mark. -/
def unmarkableWords : List String :=
  ["crate", "self", "Self", "super"]

/-- The reserved words that are not marked. -/
def missedWords : List String :=
  ["abstract", "become", "crate", "do", "final", "macro", "override", "priv", "self", "Self",
   "super", "typeof", "unsized", "virtual"]

section

variable {word : String}

theorem mem_missedWords_iff : word ∈ missedWords ↔ word ∈ reservedWords ∧ word ∉ keywords := by
  have missed : ∀ word ∈ missedWords, word ∈ reservedWords ∧ word ∉ keywords := by decide +kernel
  have marked : ∀ word ∈ reservedWords, word ∉ missedWords → word ∈ keywords := by decide +kernel
  constructor
  · exact missed word
  · rintro ⟨reserved, unlisted⟩
    by_contra other
    exact unlisted (marked word reserved other)

theorem letters_of_reserved (reserved : word ∈ reservedWords) :
    '_' ∉ word.toList ∧ '#' ∉ word.toList ∧ 'R' ∉ word.toList ∧
      word.toList.any Char.isDigit = false := by
  have each : ∀ word ∈ reservedWords, '_' ∉ word.toList ∧ '#' ∉ word.toList ∧
      'R' ∉ word.toList ∧ word.toList.any Char.isDigit = false := by decide +kernel
  exact each word reserved

theorem not_reserved_numbered (text : String) (n : Nat) : numbered text n ∉ reservedWords := by
  intro reserved
  obtain ⟨-, -, -, letters⟩ := letters_of_reserved reserved
  obtain ⟨digit, rest, signs⟩ := List.exists_cons_of_ne_nil (Text.digits_ne_nil n)
  have inside : digit ∈ Text.digits n := signs ▸ List.mem_cons_self
  refine List.any_eq_false.mp letters digit ?_ (Text.isDigit_of_mem_digits inside)
  rw [toList_numbered]
  exact List.mem_append_right _ inside

end

/-! ## Identifiers of members -/

theorem memberIdent_missed {name : String} (missed : snakeCase name ∈ missedWords) :
    memberIdent name = snakeCase name := by
  have each : ∀ word ∈ missedWords, escaped word = word := by decide +kernel
  exact each (snakeCase name) missed

/-- The reserved words among the identifiers of a record are those of fields with the names of words
    that are not marked. -/
theorem reserved_mem_uniqueIdents_iff (names : List String) {word : String}
    (reserved : word ∈ reservedWords) :
    word ∈ uniqueIdents names ↔ word ∈ missedWords ∧ word ∈ names.map snakeCase := by
  obtain ⟨noUnderscore, noHash, -⟩ := letters_of_reserved reserved
  constructor
  · intro inside
    obtain ⟨name, among, stems⟩ := exists_stem inside
    cases stems with
    | withNumber n => exact absurd (underscore_mem_numbered _ _) noUnderscore
    | own =>
        have escapes := memberIdent_escapes name
        generalize memberIdent name = ident at escapes reserved noUnderscore noHash
        cases escapes with
        | marked _ => simp at noHash
        | unnamed _ => exact absurd reserved (by decide)
        | underscored _ _ => simp at noUnderscore
        | plain unreserved _ _ =>
            exact ⟨mem_missedWords_iff.mpr ⟨reserved, unreserved⟩, List.mem_map_of_mem among⟩
  · rintro ⟨missed, called⟩
    obtain ⟨name, among, rfl⟩ := List.mem_map.mp called
    rw [← memberIdent_missed missed]
    exact memberIdent_mem_uniqueIdents among

theorem marked_notMem_uniqueIdents (names : List String) {word : String}
    (unmarkable : word ∈ unmarkableWords) : "r#" ++ word ∉ uniqueIdents names := by
  have apart : ∀ word ∈ unmarkableWords, word ∉ keywords ∧ word ∈ reservedWords := by decide +kernel
  obtain ⟨unlisted, reserved⟩ := apart word unmarkable
  intro inside
  obtain ⟨name, -, stems⟩ := exists_stem inside
  have marking := stems.marking
  generalize same : "r#" ++ word = ident at marking
  cases marking with
  | plain clean => simp [← same] at clean
  | keyword listed =>
      obtain rfl := (String.append_right_inj _).mp same
      exact unlisted listed
  | withNumber listed n =>
      obtain rfl := (String.append_right_inj _).mp (same.trans (numbered_append _ _ _))
      exact not_reserved_numbered _ _ reserved

/-! ## Names of types -/

/-- A text that begins with a sign which is no small letter. -/
def LargeHead (text : String) : Prop :=
  ∃ first rest, text.toList = first :: rest ∧ first.isLower = false

theorem LargeHead.append {text : String} (large : LargeHead text) (more : String) :
    LargeHead (text ++ more) := by
  obtain ⟨first, rest, signs, head⟩ := large
  exact ⟨first, rest ++ more.toList, by rw [String.toList_append, signs]; rfl, head⟩

theorem LargeHead.underscored {text : String} (large : LargeHead text) :
    LargeHead (underscored text) := by
  unfold Naming.underscored
  split
  next first rest signs =>
    split
    next => exact ⟨'_', text.toList, by rw [String.toList_append]; rfl, rfl⟩
    next => exact large
  next => exact large

theorem largeHead_typeWord (segment : String) : LargeHead (typeWord segment) := by
  unfold typeWord
  dsimp only
  split
  next => exact ⟨'U', ['n', 'n', 'a', 'm', 'e', 'd'], rfl, rfl⟩
  next nonempty =>
    unfold pascalCase at nonempty ⊢
    cases words : Text.runs isDelimiter segment.toList with
    | nil => simp [words] at nonempty
    | cons word more =>
        have inside : word ∈ Text.runs isDelimiter segment.toList := words ▸ List.mem_cons_self
        cases word with
        | nil => simp [Text.runs] at inside
        | cons c rest =>
            obtain ⟨first, others, capital, head⟩ := Text.head_toCapital c
            refine ⟨first, others ++ rest ++ more.flatMap capitalized, ?_, head⟩
            rw [String.toList_ofList, List.flatMap_cons, capitalized, capital]
            rfl

theorem LargeHead.eq_of_reserved {text : String} (large : LargeHead text)
    (reserved : text ∈ reservedWords) : text = "Self" := by
  have each : ∀ word ∈ reservedWords, word = "Self" ∨
      (word.toList.head?.map Char.isLower) = some true := by decide +kernel
  obtain ⟨first, rest, signs, head⟩ := large
  refine (each text reserved).resolve_right ?_
  simp [signs, head]

theorem eq_of_underscored {text : String} (same : underscored text = "Self") : text = "Self" := by
  unfold underscored at same
  split at same
  next =>
    split at same
    next =>
      have signs := congrArg String.toList same
      rw [String.toList_append] at signs
      cases signs
    next => exact same
  next => exact same

theorem append_ne_self {text other : String} (large : LargeHead text)
    (otherLarge : LargeHead other) : text ++ other ≠ "Self" := by
  intro same
  obtain ⟨first, rest, signs, -⟩ := large
  obtain ⟨second, more, otherSigns, head⟩ := otherLarge
  have all := congrArg String.toList same
  rw [String.toList_append, signs, otherSigns] at all
  have behind : second ∈ ['e', 'l', 'f'] := by
    have tail : rest ++ second :: more = ['e', 'l', 'f'] := List.tail_eq_of_cons_eq all
    exact tail ▸ List.mem_append_right rest List.mem_cons_self
  have small : (['e', 'l', 'f'].all Char.isLower) = true := by decide
  rw [List.all_eq_true.mp small second behind] at head
  cases head

theorem candidate_eq (path : List String) (last : String) :
    Strategy.candidate {} path last = underscored (typeWord last) := rfl

theorem secondary_eq (path : List String) (parent last : String) :
    Strategy.secondary {} path parent last = underscored (typeWord parent ++ typeWord last) := rfl

/-- Of the names that are tried for a path, only the first can be a reserved word. -/
theorem proposal_reserved {path : List String} {place : Nat} {name : String}
    (proposed : Strategy.proposal {} path place = some name) (reserved : name ∈ reservedWords) :
    name = "Self" ∧ ∃ above last, path = above ++ [last] ∧ typeWord last = "Self" := by
  unfold Strategy.proposal at proposed
  split at proposed
  next => cases proposed
  next last above reversed =>
    have same := Option.some.inj proposed
    rw [candidate_eq] at same
    have self : name = "Self" :=
      LargeHead.eq_of_reserved (same ▸ (largeHead_typeWord last).underscored) reserved
    exact ⟨self, above.reverse, last, List.reverse_eq_cons_iff.mp reversed,
      eq_of_underscored (same.trans self)⟩
  next => cases proposed
  next last parent above reversed =>
    have same := Option.some.inj proposed
    rw [secondary_eq] at same
    have large := (largeHead_typeWord parent).append (typeWord last)
    have self : name = "Self" := LargeHead.eq_of_reserved (same ▸ large.underscored) reserved
    exact absurd (eq_of_underscored (same.trans self))
      (append_ne_self (largeHead_typeWord parent) (largeHead_typeWord last))
  next =>
    split at proposed
    next => exact absurd (Option.some.inj proposed ▸ reserved) (not_reserved_numbered _ _)
    next => cases proposed

theorem wireName_not_reserved (name : String) :
    Strategy.wireName {} name ∉ reservedWords := by
  intro reserved
  obtain ⟨-, -, noR, -⟩ := letters_of_reserved reserved
  exact noR (by simp [Strategy.wireName])

end Naming

end StoreSchema
