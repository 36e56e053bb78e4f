import Mathlib.Data.String.Basic
import StoreSchema.Naming.Identifier

/-! # Signs in snake case

Snake case keeps the letters and numerals of a name, in small forms, and sets underscores between
its words. No other ASCII sign finds its way into it, so that the marks that are put around a text in
snake case are told from the text.
-/

namespace StoreSchema

namespace Text

theorem toNat_ofNat (code : Nat) :
    (Char.ofNat code).toNat = if code.isValidChar then code else 0 := by
  by_cases valid : code.isValidChar
  · rw [Char.ofNat, dif_pos valid, if_pos valid]
    rfl
  · rw [Char.ofNat, dif_neg valid, if_neg valid]
    rfl

/-! ## Small forms -/

theorem lt_of_mem_mapCase {code small : Nat} (beyond : 0x80 ≤ code)
    (inside : small ∈ mapCase smallRuns longSmalls code) : 0x23 < small := by
  have runs : ∀ run ∈ smallRuns, 0x23 < run.2.2.2 := by
    have all : (smallRuns.all fun run => 0x23 < run.2.2.2) = true := by decide +kernel
    simpa using Array.all_eq_true_iff_forall_mem.mp all
  have long : ∀ entry ∈ longSmalls, ∀ small ∈ entry.2, 0x23 < small := by
    simp [longSmalls]
  unfold mapCase at inside
  split at inside
  next origin smalls found => exact long _ (Array.mem_of_find?_eq_some found) small inside
  next =>
    split at inside
    next first last stride target found =>
      have start := runs _ (Array.mem_of_find?_eq_some found)
      cases List.mem_singleton.mp inside
      dsimp only at start
      omega
    next =>
      cases List.mem_singleton.mp inside
      omega

theorem hash_notMem_toSmall {c : Char} (other : c ≠ '#') : '#' ∉ toSmall c := by
  intro inside
  unfold toSmall at inside
  split at inside
  next ascii =>
    have each : ∀ code < 0x80, (Char.ofNat code).toLower = '#' → Char.ofNat code = '#' := by
      decide +kernel
    have same := each c.toNat ascii
    rw [Char.ofNat_toNat] at same
    exact other (same (List.mem_singleton.mp inside).symm)
  next beyond =>
    obtain ⟨small, among, same⟩ := List.mem_map.mp inside
    have larger := lt_of_mem_mapCase (Nat.le_of_not_lt beyond) among
    have code := congrArg Char.toNat same
    rw [toNat_ofNat] at code
    have hash : '#'.toNat = 0x23 := rfl
    split at code <;> omega

/-! ## Words -/

theorem pieces_ne_nil (isSeparator : Char → Bool) (text : List Char) :
    pieces isSeparator text ≠ [] := by
  fun_cases pieces isSeparator text with
  | case1 | case2 | case3 | case4 => simp

theorem not_separator_of_mem_pieces {isSeparator : Char → Bool} {text piece : List Char} {c : Char}
    (inside : piece ∈ pieces isSeparator text) (among : c ∈ piece) : isSeparator c = false := by
  induction text generalizing piece with
  | nil =>
      cases List.mem_singleton.mp inside
      cases among
  | cons first rest ih =>
      rw [pieces] at inside
      cases split : pieces isSeparator rest with
      | nil => exact absurd split (pieces_ne_nil isSeparator rest)
      | cons next more =>
          rw [split] at inside ih
          dsimp only at inside
          split at inside
          next separator =>
            cases List.mem_cons.mp inside with
            | inl empty =>
                subst empty
                cases among
            | inr later => exact ih later among
          next letter =>
            cases List.mem_cons.mp inside with
            | inl here =>
                subst here
                cases List.mem_cons.mp among with
                | inl same => exact same ▸ Bool.eq_false_iff.mpr letter
                | inr deeper => exact ih List.mem_cons_self deeper
            | inr later => exact ih (List.mem_cons_of_mem next later) among

theorem not_separator_of_mem_runs {isSeparator : Char → Bool} {text run : List Char} {c : Char}
    (inside : run ∈ runs isSeparator text) (among : c ∈ run) : isSeparator c = false :=
  not_separator_of_mem_pieces (List.mem_of_mem_filter inside) among

end Text

namespace Naming

theorem mem_of_mem_humps {casing : Casing} {word text hump : List Char} {c : Char}
    (inside : hump ∈ humps casing word text) (among : c ∈ hump) : c ∈ word ∨ c ∈ text := by
  fun_induction humps casing word text with
  | case1 => cases inside
  | case2 casing word last =>
      cases List.mem_singleton.mp inside
      exact List.mem_append.mp among
  | case3 casing word first second rest ends ih =>
      rcases List.mem_cons.mp inside with rfl | later
      · rcases List.mem_append.mp among with before | last
        · exact .inl before
        · exact .inr (List.mem_singleton.mp last ▸ List.mem_cons_self)
      · have there := ih later
        simp only [List.not_mem_nil, false_or] at there
        exact .inr (List.mem_cons_of_mem first there)
  | case4 casing word first second rest continues ends ih =>
      rcases List.mem_cons.mp inside with rfl | later
      · exact .inl among
      · have there := ih later
        rw [List.mem_singleton] at there
        exact .inr (List.mem_cons.mpr there)
  | case5 casing word first second rest continues stays ih =>
      have there := ih inside
      rw [List.mem_append, List.mem_singleton, or_assoc] at there
      exact there.imp_right List.mem_cons.mpr

theorem hash_notMem_smallWord {word : List Char} (clean : '#' ∉ word) : '#' ∉ smallWord word := by
  fun_induction smallWord word with
  | case1 => exact List.not_mem_nil
  | case2 => decide
  | case3 first rest _ ih =>
      rw [List.mem_cons, not_or] at clean
      rw [List.mem_append, not_or]
      exact ⟨Text.hash_notMem_toSmall (Ne.symm clean.1), ih clean.2⟩

theorem notMem_intercalate {separator : String} {c : Char} (other : c ∉ separator.toList)
    {parts : List String} (clean : ∀ part ∈ parts, c ∉ part.toList) :
    c ∉ (separator.intercalate parts).toList := by
  induction parts with
  | nil => simp
  | cons part rest ih =>
      obtain ⟨here, later⟩ := List.forall_mem_cons.mp clean
      cases rest with
      | nil => simpa using here
      | cons next more =>
          rw [String.intercalate_cons_cons, String.toList_append, String.toList_append]
          simp only [List.mem_append, not_or]
          exact ⟨⟨here, other⟩, ih later⟩

/-- A text in snake case has no `#`, whatever it was made from. -/
theorem hash_notMem_snakeCase (text : String) : '#' ∉ (snakeCase text).toList := by
  refine notMem_intercalate (by decide) ?_
  intro part inside
  obtain ⟨word, among, rfl⟩ := List.mem_map.mp inside
  obtain ⟨run, found, hump⟩ := List.mem_flatMap.mp among
  rw [String.toList_ofList]
  refine hash_notMem_smallWord ?_
  intro hash
  have letter := (mem_of_mem_humps hump hash).resolve_left List.not_mem_nil
  have separates : (!Text.isAlphanumeric '#') = true := by decide +kernel
  rw [Text.not_separator_of_mem_runs found letter] at separates
  cases separates

end Naming

end StoreSchema
