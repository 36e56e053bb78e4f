import StoreSchema.Proofs.Lists
import StoreSchema.Proofs.Naming.Overlaps
import StoreSchema.Proofs.Naming.SnakeCase

/-! # Identifiers of a record

The identifiers of the members of a record are pairwise distinct texts. As identifiers they may still
be the same, since the mark in front of an escaped keyword is no part of the identifier: a keyword
that is numbered keeps its mark, although a keyword with a number behind it is none, and without the
mark it is what a field of that very name has. There is no other way for two members to meet.
-/

namespace StoreSchema.Naming

/-! ## Texts with a number -/

theorem divide_unique {α : Type} {sign : α} {one other oneRest otherRest : List α}
    (oneFirst : sign ∉ one) (otherFirst : sign ∉ other)
    (same : one ++ sign :: oneRest = other ++ sign :: otherRest) :
    one = other ∧ oneRest = otherRest := by
  induction one generalizing other with
  | nil =>
      cases other with
      | nil => exact ⟨rfl, List.tail_eq_of_cons_eq same⟩
      | cons first rest =>
          cases List.head_eq_of_cons_eq same
          exact absurd List.mem_cons_self otherFirst
  | cons first rest ih =>
      cases other with
      | nil =>
          cases List.head_eq_of_cons_eq same
          exact absurd List.mem_cons_self oneFirst
      | cons second more =>
          cases List.head_eq_of_cons_eq same
          rw [List.mem_cons, not_or] at oneFirst otherFirst
          obtain ⟨rfl, rest⟩ := ih oneFirst.2 otherFirst.2 (List.tail_eq_of_cons_eq same)
          exact ⟨rfl, rest⟩

section

variable {text other : String} {m n : Nat}

theorem toList_numbered (text : String) (n : Nat) :
    (numbered text n).toList = text.toList ++ Text.digits n := by
  rw [numbered, String.toList_append, String.toList_ofList]

theorem underscore_mem_numbered (text : String) (n : Nat) :
    '_' ∈ (numbered (text ++ "_") n).toList := by
  simp [toList_numbered]

theorem underscore_notMem_digits (n : Nat) : '_' ∉ (Text.digits n).reverse := by
  intro inside
  have digit := Text.isDigit_of_mem_digits (List.mem_reverse.mp inside)
  cases digit

theorem numbered_inj :
    numbered (text ++ "_") m = numbered (other ++ "_") n ↔ text = other ∧ m = n := by
  constructor
  · intro same
    have signs := congrArg (fun text => text.toList.reverse) same
    simp only [toList_numbered, String.toList_append, List.reverse_append] at signs
    obtain ⟨-, texts⟩ := divide_unique (underscore_notMem_digits m) (underscore_notMem_digits n)
      signs
    obtain rfl := String.toList_inj.mp (List.reverse_injective texts)
    exact ⟨rfl, numbered_injective _ same⟩
  · rintro ⟨rfl, rfl⟩
    rfl

theorem numbered_append (mark text : String) (n : Nat) :
    numbered (mark ++ text ++ "_") n = mark ++ numbered (text ++ "_") n := by
  simp only [numbered, String.append_assoc]

end

/-! ## Keywords -/

section

variable {keyword : String}

theorem underscore_notMem_keyword (reserved : keyword ∈ keywords) : '_' ∉ keyword.toList := by
  have each : ∀ keyword ∈ keywords, '_' ∉ keyword.toList := by decide
  exact each keyword reserved

theorem hash_notMem_keyword (reserved : keyword ∈ keywords) : '#' ∉ keyword.toList := by
  have each : ∀ keyword ∈ keywords, '#' ∉ keyword.toList := by decide
  exact each keyword reserved

theorem keyword_head (reserved : keyword ∈ keywords) :
    ∃ first rest, keyword.toList = first :: rest ∧ first.isDigit = false := by
  have each : ∀ keyword ∈ keywords,
      (keyword.toList.head?.map Char.isDigit) = some false := by decide
  have head := each keyword reserved
  cases signs : keyword.toList with
  | nil => simp [signs] at head
  | cons first rest => exact ⟨first, rest, rfl, by simpa [signs] using head⟩

theorem hash_notMem_numbered {text : String} (clean : '#' ∉ text.toList) (n : Nat) :
    '#' ∉ (numbered (text ++ "_") n).toList := by
  rw [toList_numbered, String.toList_append, List.mem_append, List.mem_append]
  rintro ((inText | inMark) | inNumber)
  · exact clean inText
  · exact absurd inMark (by decide)
  · exact absurd (Text.isDigit_of_mem_digits inNumber) (by decide)

theorem marked_ne_numbered (reserved : keyword ∈ keywords) (text : String) (n : Nat) :
    "r#" ++ keyword ≠ numbered (text ++ "_") n := by
  intro same
  have inside := same ▸ underscore_mem_numbered text n
  rw [String.toList_append, List.mem_append] at inside
  exact inside.elim (by decide) (underscore_notMem_keyword reserved)

end

/-! ## The identifier of one member -/

/-- What the identifier of a member is made from: a keyword, or a text that is none. -/
inductive Escapes (snake : String) : String → Prop where
  | marked (reserved : snake ∈ keywords) : Escapes snake ("r#" ++ snake)
  | unnamed (empty : snake = "") : Escapes snake "field"
  | underscored {first : Char} {rest : List Char} (signs : snake.toList = first :: rest)
      (digit : first.isDigit) : Escapes snake ("_" ++ snake)
  | plain (unreserved : snake ∉ keywords) {first : Char} {rest : List Char}
      (signs : snake.toList = first :: rest) (letter : first.isDigit = false) :
      Escapes snake snake

theorem escaped_escapes (snake : String) : Escapes snake (escaped snake) := by
  unfold escaped
  by_cases empty : snake.isEmpty
  · rw [if_pos empty]
    exact .unnamed (String.isEmpty_iff.mp empty)
  rw [if_neg empty]
  unfold underscored
  cases signs : snake.toList with
  | nil =>
      have none : snake = "" := String.toList_inj.mp signs
      exact absurd (String.isEmpty_iff.mpr none) empty
  | cons first rest =>
      dsimp only
      by_cases digit : first.isDigit
      · rw [if_pos digit, if_neg]
        · exact .underscored signs digit
        · intro reserved
          have inside := underscore_notMem_keyword (List.contains_iff_mem.mp reserved)
          simp at inside
      · rw [if_neg digit]
        split
        next reserved => exact .marked (List.contains_iff_mem.mp reserved)
        next unreserved =>
          refine .plain ?_ signs (Bool.eq_false_iff.mpr digit)
          exact mt List.contains_iff_mem.mpr unreserved

section

variable {snake ident keyword : String}

theorem Escapes.unreserved (escapes : Escapes snake ident) : ident ∉ keywords := by
  intro reserved
  cases escapes with
  | marked _ =>
      have hash := hash_notMem_keyword reserved
      simp at hash
  | unnamed _ => exact absurd reserved (by decide)
  | underscored _ _ =>
      have underscore := underscore_notMem_keyword reserved
      simp at underscore
  | plain unreserved _ _ => exact unreserved reserved

theorem Escapes.marks (escapes : Escapes snake ident) (clean : '#' ∉ snake.toList)
    (marked : '#' ∈ ident.toList) : snake ∈ keywords ∧ ident = "r#" ++ snake := by
  cases escapes with
  | marked reserved => exact ⟨reserved, rfl⟩
  | unnamed _ => exact absurd marked (by decide)
  | underscored _ _ =>
      rw [String.toList_append, List.mem_append] at marked
      exact absurd (marked.resolve_right clean) (by decide)
  | plain _ _ _ => exact absurd marked clean

theorem Escapes.eq_marked_iff (escapes : Escapes snake ident) (clean : '#' ∉ snake.toList)
    (reserved : keyword ∈ keywords) : ident = "r#" ++ keyword ↔ snake = keyword := by
  constructor
  · rintro rfl
    obtain ⟨-, same⟩ := escapes.marks clean (by simp)
    exact ((String.append_right_inj _).mp same).symm
  · rintro rfl
    obtain ⟨first, rest, signs, letter⟩ := keyword_head reserved
    cases escapes with
    | marked _ => rfl
    | unnamed empty => simp [empty] at signs
    | underscored otherSigns digit =>
        rw [signs] at otherSigns
        cases otherSigns
        rw [letter] at digit
        cases digit
    | plain unreserved _ _ => exact absurd reserved unreserved

/-- A keyword with a number behind it is the identifier of a field of that very name only. -/
theorem Escapes.eq_numbered_iff (escapes : Escapes snake ident) (reserved : keyword ∈ keywords)
    (n : Nat) : ident = numbered (keyword ++ "_") n ↔ snake = numbered (keyword ++ "_") n := by
  have underscore := underscore_mem_numbered keyword n
  obtain ⟨first, rest, signs, letter⟩ := keyword_head reserved
  have head : (numbered (keyword ++ "_") n).toList = first :: (rest ++ ['_'] ++ Text.digits n) := by
    simp [toList_numbered, signs]
  constructor
  · rintro rfl
    -- The text has no mark, it is not `field`, and it begins with the letter of the keyword.
    generalize same : numbered (keyword ++ "_") n = ident at escapes underscore head
    cases escapes with
    | marked _ =>
        have clean := hash_notMem_numbered (hash_notMem_keyword reserved) n
        simp [same] at clean
    | unnamed _ => exact absurd underscore (by decide)
    | underscored _ _ =>
        have leading : '_' = first := by simpa using congrArg List.head? head
        have inside := underscore_notMem_keyword reserved
        rw [signs, leading] at inside
        exact absurd List.mem_cons_self inside
    | plain _ _ _ => rfl
  · intro same
    rw [same] at escapes
    generalize numbered (keyword ++ "_") n = text at escapes underscore head
    cases escapes with
    | marked reserved => exact absurd underscore (underscore_notMem_keyword reserved)
    | unnamed empty => simp [empty] at head
    | underscored otherSigns digit =>
        rw [head] at otherSigns
        cases otherSigns
        rw [letter] at digit
        cases digit
    | plain _ _ _ => rfl

end

theorem memberIdent_escapes (name : String) : Escapes (snakeCase name) (memberIdent name) :=
  escaped_escapes (snakeCase name)

/-! ## Identifiers one after the other -/

/-- The identifier of a member is its own where that is free, and otherwise its own with the first
    number that makes it free. -/
inductive Uniquely (taken : List String) (name : String) : String → Prop where
  | own (free : memberIdent name ∉ taken) : Uniquely taken name (memberIdent name)
  | withNumber (occupied : memberIdent name ∈ taken) (n : Nat)
      (free : numbered (memberIdent name ++ "_") (n + 1) ∉ taken)
      (least : ∀ m < n, numbered (memberIdent name ++ "_") (m + 1) ∈ taken) :
      Uniquely taken name (numbered (memberIdent name ++ "_") (n + 1))

theorem Uniquely.notMem {taken : List String} {name ident : String}
    (unique : Uniquely taken name ident) : ident ∉ taken := by
  cases unique with
  | own free => exact free
  | withNumber _ _ free _ => exact free

theorem exists_free_ident (taken : List String) (base : String) :
    ∃ n ∈ List.range' 1 (taken.length + 1), ¬ taken.contains (numbered base n) := by
  by_contra none
  have fits := Registry.countP_taken_le (numbered_injective base) taken
    (List.nodup_range' (s := 1) (n := taken.length + 1))
  have all : (List.range' 1 (taken.length + 1)).countP
      (fun n => decide (numbered base n ∈ taken)) = taken.length + 1 := by
    rw [List.countP_eq_length.mpr, List.length_range']
    intro n among
    by_contra free
    exact none ⟨n, among, by simpa using free⟩
  omega

theorem uniqueIdent_uniquely (taken : List String) (name : String) :
    Uniquely taken name (uniqueIdent taken name) := by
  unfold uniqueIdent
  dsimp only
  split
  next occupied =>
    obtain ⟨n, -, found, free, least⟩ :=
      Lists.findSome?_first (numbered (memberIdent name ++ "_"))
        (exists_free_ident taken (memberIdent name ++ "_"))
    simp only [ite_not] at found
    rw [found]
    refine .withNumber (List.contains_iff_mem.mp occupied) n (by simpa using free) ?_
    intro m before
    simpa using least m before
  next free => exact .own (by simpa using free)

theorem uniqueIdents_concat (names : List String) (name : String) :
    uniqueIdents (names ++ [name]) =
      uniqueIdents names ++ [uniqueIdent (uniqueIdents names) name] := by
  simp [uniqueIdents]

theorem nodup_uniqueIdents (names : List String) : (uniqueIdents names).Nodup := by
  induction names using List.reverseRecOn with
  | nil => exact .nil
  | append_singleton names name ih =>
      rw [uniqueIdents_concat, ← List.concat_eq_append, List.nodup_concat]
      exact ⟨(uniqueIdent_uniquely (uniqueIdents names) name).notMem, ih⟩

theorem memberIdent_mem_uniqueIdents {names : List String} {name : String} (inside : name ∈ names) :
    memberIdent name ∈ uniqueIdents names := by
  induction names using List.reverseRecOn with
  | nil => cases inside
  | append_singleton names last ih =>
      rw [uniqueIdents_concat, List.mem_append, List.mem_singleton]
      rcases List.mem_append.mp inside with early | here
      · exact .inl (ih early)
      · cases List.mem_singleton.mp here
        have unique := uniqueIdent_uniquely (uniqueIdents names) name
        generalize uniqueIdent (uniqueIdents names) name = ident at unique
        cases unique with
        | own _ => exact .inr rfl
        | withNumber occupied _ _ _ => exact .inl occupied

/-- An identifier of a record is that of a field, with or without a number behind it. -/
inductive Stems (name : String) : String → Prop where
  | own : Stems name (memberIdent name)
  | withNumber (n : Nat) : Stems name (numbered (memberIdent name ++ "_") (n + 1))

theorem Uniquely.stems {taken : List String} {name ident : String}
    (unique : Uniquely taken name ident) : Stems name ident := by
  cases unique with
  | own _ => exact .own
  | withNumber _ n _ _ => exact .withNumber n

theorem exists_stem {names : List String} {ident : String} (inside : ident ∈ uniqueIdents names) :
    ∃ name ∈ names, Stems name ident := by
  induction names using List.reverseRecOn with
  | nil => cases inside
  | append_singleton names last ih =>
      rw [uniqueIdents_concat, List.mem_append, List.mem_singleton] at inside
      rcases inside with early | rfl
      · obtain ⟨name, among, stems⟩ := ih early
        exact ⟨name, List.mem_append_left [last] among, stems⟩
      · exact ⟨last, by simp, (uniqueIdent_uniquely (uniqueIdents names) last).stems⟩

section

variable {keyword : String}

/-- What a keyword with a number behind it comes from. -/
theorem numbered_mem_uniqueIdents_iff (reserved : keyword ∈ keywords) (names : List String)
    (n : Nat) : numbered (keyword ++ "_") n ∈ uniqueIdents names ↔
      numbered (keyword ++ "_") n ∈ names.map snakeCase := by
  rw [List.mem_map]
  constructor
  · intro inside
    obtain ⟨name, among, stems⟩ := exists_stem inside
    have escapes := memberIdent_escapes name
    generalize same : numbered (keyword ++ "_") n = ident at stems
    cases stems with
    | own => exact ⟨name, among, same ▸ (escapes.eq_numbered_iff reserved n).mp same.symm⟩
    | withNumber m =>
        obtain ⟨own, -⟩ := numbered_inj.mp same
        exact absurd (own ▸ reserved) escapes.unreserved
  · rintro ⟨name, among, same⟩
    rw [← ((memberIdent_escapes name).eq_numbered_iff reserved n).mpr same]
    exact memberIdent_mem_uniqueIdents among

theorem Stems.other {name ident : String} (stems : Stems name ident)
    (reserved : keyword ∈ keywords) (differs : snakeCase name ≠ keyword) :
    ident ≠ "r#" ++ keyword ∧ ∀ n, ident ≠ numbered ("r#" ++ keyword ++ "_") n := by
  have escapes := memberIdent_escapes name
  have clean := hash_notMem_snakeCase name
  have own : memberIdent name ≠ "r#" ++ keyword :=
    mt (escapes.eq_marked_iff clean reserved).mp differs
  cases stems with
  | own =>
      refine ⟨own, ?_⟩
      intro n same
      obtain ⟨marked, shape⟩ := escapes.marks clean (by simp [same, toList_numbered])
      exact marked_ne_numbered marked _ n (shape.symm.trans same)
  | withNumber m =>
      exact ⟨(marked_ne_numbered reserved _ _).symm, fun n same => own (numbered_inj.mp same).1⟩

theorem marked_mem_uniqueIdents_iff (reserved : keyword ∈ keywords) (names : List String) :
    ("r#" ++ keyword ∈ uniqueIdents names ↔ 0 < (names.map snakeCase).count keyword) ∧
      ∀ n, numbered ("r#" ++ keyword ++ "_") (n + 1) ∈ uniqueIdents names ↔
        n + 1 < (names.map snakeCase).count keyword := by
  induction names using List.reverseRecOn with
  | nil => simp [uniqueIdents]
  | append_singleton names name ih =>
      -- The taken numbers of the keyword are those below the count, so the least free one is the
      -- count itself.
      obtain ⟨bare, withNumber⟩ := ih
      have unique := uniqueIdent_uniquely (uniqueIdents names) name
      simp only [uniqueIdents_concat, List.mem_append, List.mem_singleton, List.map_append,
        List.map_cons, List.map_nil, List.count_append, List.count_singleton, beq_iff_eq, bare,
        withNumber]
      by_cases called : snakeCase name = keyword
      · have own : memberIdent name = "r#" ++ keyword :=
          ((memberIdent_escapes name).eq_marked_iff (hash_notMem_snakeCase name) reserved).mpr called
        simp only [called, if_true]
        generalize uniqueIdent (uniqueIdents names) name = ident at unique ⊢
        cases unique with
        | own free =>
            rw [own, bare] at free
            refine ⟨by simp [own], fun n => ?_⟩
            have apart := (marked_ne_numbered reserved ("r#" ++ keyword) (n + 1)).symm
            simp only [own, apart, or_false]
            omega
        | withNumber occupied m free least =>
            simp only [own, bare, withNumber] at occupied free least
            have next : (names.map snakeCase).count keyword = m + 1 := by
              cases m with
              | zero => omega
              | succ before =>
                  have last := least before (Nat.lt_succ_self before)
                  omega
            refine ⟨by omega, fun n => ?_⟩
            simp only [own, numbered_inj, next, true_and]
            omega
      · obtain ⟨notBare, notNumbered⟩ := unique.stems.other reserved called
        refine ⟨?_, fun n => ?_⟩
        · simp [called, Ne.symm notBare]
        · simp [called, Ne.symm (notNumbered (n + 1))]

end

/-! ## Identifiers without marks -/

/-- The identifier that a text stands for: the mark of an escaped one is no part of it. -/
def bareIdent (ident : String) : String :=
  match ident.toList with
  | 'r' :: '#' :: rest => String.ofList rest
  | _ => ident

theorem bareIdent_marked (text : String) : bareIdent ("r#" ++ text) = text := by
  have signs : ("r#" ++ text).toList = 'r' :: '#' :: text.toList := by simp
  rw [bareIdent, signs]
  exact String.ofList_toList

theorem bareIdent_plain {ident : String} (clean : '#' ∉ ident.toList) : bareIdent ident = ident := by
  unfold bareIdent
  split
  next rest signs => simp [signs] at clean
  next => rfl

/-- An identifier is marked just where it is a keyword or a keyword with a number behind it. -/
inductive Marking : String → Prop where
  | plain {ident : String} (clean : '#' ∉ ident.toList) : Marking ident
  | keyword {keyword : String} (reserved : keyword ∈ keywords) : Marking ("r#" ++ keyword)
  | withNumber {keyword : String} (reserved : keyword ∈ keywords) (n : Nat) :
      Marking (numbered ("r#" ++ keyword ++ "_") (n + 1))

theorem Stems.marking {name ident : String} (stems : Stems name ident) : Marking ident := by
  have escapes := memberIdent_escapes name
  have clean := hash_notMem_snakeCase name
  by_cases marked : '#' ∈ (memberIdent name).toList
  · obtain ⟨reserved, own⟩ := escapes.marks clean marked
    cases stems with
    | own =>
        rw [own]
        exact .keyword reserved
    | withNumber n =>
        rw [own]
        exact .withNumber reserved n
  · refine .plain ?_
    cases stems with
    | own => exact marked
    | withNumber n => exact hash_notMem_numbered marked (n + 1)

theorem plain_or_marked {names : List String} {ident : String}
    (inside : ident ∈ uniqueIdents names) : '#' ∉ ident.toList ∨ ∃ text, ident = "r#" ++ text := by
  obtain ⟨name, -, stems⟩ := exists_stem inside
  cases stems.marking with
  | plain clean => exact .inl clean
  | keyword _ => exact .inr ⟨_, rfl⟩
  | withNumber _ n => exact .inr ⟨_, numbered_append _ _ (n + 1)⟩

/-- No field has the name of a keyword with a number behind it where so many other fields are called
    like the keyword that one of them has that number. -/
def KeywordsApart (names : List String) : Prop :=
  ∀ keyword ∈ keywords, ∀ n, n + 1 < (names.map snakeCase).count keyword →
    numbered (keyword ++ "_") (n + 1) ∉ names.map snakeCase

theorem KeywordsApart.notMem {names : List String} (apart : KeywordsApart names) {text : String}
    (marked : "r#" ++ text ∈ uniqueIdents names) : text ∉ uniqueIdents names := by
  intro plain
  obtain ⟨name, -, stems⟩ := exists_stem marked
  have marking := stems.marking
  generalize same : "r#" ++ text = ident at marked marking
  cases marking with
  | plain clean => simp [← same] at clean
  | keyword reserved =>
      obtain rfl := (String.append_right_inj _).mp same
      obtain ⟨other, -, otherStems⟩ := exists_stem plain
      cases otherStems with
      | own => exact (memberIdent_escapes other).unreserved reserved
      | withNumber n =>
          exact underscore_notMem_keyword reserved (underscore_mem_numbered (memberIdent other) _)
  | withNumber reserved n =>
      obtain rfl := (String.append_right_inj _).mp (same.trans (numbered_append _ _ _))
      have called := ((marked_mem_uniqueIdents_iff reserved names).2 n).mp marked
      exact apart _ reserved n called ((numbered_mem_uniqueIdents_iff reserved names _).mp plain)

/-- The identifiers of a record are distinct without their marks just where keywords are apart. -/
theorem nodup_bareIdent_iff (names : List String) :
    ((uniqueIdents names).map bareIdent).Nodup ↔ KeywordsApart names := by
  constructor
  · intro distinct keyword reserved n called plain
    have marked := ((marked_mem_uniqueIdents_iff reserved names).2 n).mpr called
    rw [← numbered_mem_uniqueIdents_iff reserved] at plain
    have clean := hash_notMem_numbered (hash_notMem_keyword reserved) (n + 1)
    have meet : bareIdent (numbered ("r#" ++ keyword ++ "_") (n + 1)) =
        bareIdent (numbered (keyword ++ "_") (n + 1)) := by
      rw [numbered_append, bareIdent_marked, bareIdent_plain clean]
    rw [← List.inj_on_of_nodup_map distinct marked plain meet] at clean
    simp [numbered_append] at clean
  · intro apart
    refine (nodup_uniqueIdents names).map_on ?_
    intro one first other second same
    rcases plain_or_marked first with clean | ⟨text, rfl⟩ <;>
      rcases plain_or_marked second with otherClean | ⟨otherText, rfl⟩
    · rwa [bareIdent_plain clean, bareIdent_plain otherClean] at same
    · rw [bareIdent_plain clean, bareIdent_marked] at same
      exact absurd (same ▸ first) (apart.notMem second)
    · rw [bareIdent_marked, bareIdent_plain otherClean] at same
      exact absurd (same ▸ second) (apart.notMem first)
    · rw [bareIdent_marked, bareIdent_marked] at same
      rw [same]

end StoreSchema.Naming
