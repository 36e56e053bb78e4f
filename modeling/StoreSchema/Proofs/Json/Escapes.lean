import Mathlib.Tactic.SplitIfs
import StoreSchema.Json.Printer

/-! # Escapes

A string escapes quotes, backslashes and control characters. Every escape begins with a backslash,
and a text without anything to escape is its own escaped form.
-/

namespace StoreSchema.Json

variable {c : Char} {text : List Char}

/-- A character that stands in a string as it is. -/
def Unescaped (c : Char) : Prop :=
  c ≠ '"' ∧ c ≠ '\\' ∧ 0x20 ≤ c.toNat

instance (c : Char) : Decidable (Unescaped c) :=
  inferInstanceAs (Decidable (_ ∧ _ ∧ _))

theorem escape_unescaped (unescaped : Unescaped c) : escape c = [c] := by
  have other : ∀ d : Char, ¬ Unescaped d → (c == d) = false := by
    intro d special
    rw [beq_eq_false_iff_ne]
    rintro rfl
    exact special unescaped
  have printable : ¬ c.toNat < 0x20 := Nat.not_lt.mpr unescaped.2.2
  simp only [escape, other '"' (by decide), other '\\' (by decide), other '\x08' (by decide),
    other '\x0c' (by decide), other '\n' (by decide), other '\r' (by decide),
    other '\t' (by decide), printable, Bool.false_eq_true, if_false]

theorem escape_special (special : ¬ Unescaped c) : ∃ rest, escape c = '\\' :: rest := by
  unfold escape
  split_ifs with quote backslash _ _ _ _ _ control
  case neg =>
    refine absurd ⟨?_, ?_, Nat.not_lt.mp control⟩ special
    · simpa using quote
    · simpa using backslash
  all_goals exact ⟨_, rfl⟩

theorem backslash_mem_escape : '\\' ∈ escape c ↔ ¬ Unescaped c := by
  by_cases unescaped : Unescaped c
  · rw [escape_unescaped unescaped, List.mem_singleton]
    exact iff_of_false (Ne.symm unescaped.2.1) (not_not_intro unescaped)
  · obtain ⟨rest, escaped⟩ := escape_special unescaped
    rw [escaped]
    exact iff_of_true List.mem_cons_self unescaped

theorem escape_eq_iff : escape c = [c] ↔ Unescaped c := by
  refine ⟨fun same => Decidable.byContradiction fun special => ?_, escape_unescaped⟩
  obtain ⟨rest, escaped⟩ := escape_special special
  rw [same, List.cons.injEq] at escaped
  rw [escaped.1] at same
  cases same

/-- A text that stands in a string as it is. -/
def Verbatim (text : List Char) : Prop :=
  ∀ c ∈ text, Unescaped c

-- characters are finitely many, and must not be tried one by one
instance (text : List Char) : Decidable (Verbatim text) :=
  List.decidableBAll Unescaped text

theorem Verbatim.flatMap_escape (verbatim : Verbatim text) : text.flatMap escape = text := by
  induction text with
  | nil => rfl
  | cons c rest ih =>
      rw [List.flatMap_cons, escape_unescaped (verbatim c List.mem_cons_self),
        ih fun d inside => verbatim d (List.mem_cons_of_mem c inside)]
      rfl

/-- What a text is between the quotes of a string. -/
def escaped (text : String) : String :=
  String.ofList (text.toList.flatMap escape)

theorem Verbatim.escaped_eq {text : String} (verbatim : Verbatim text.toList) :
    escaped text = text := by
  rw [escaped, verbatim.flatMap_escape, String.ofList_toList]

theorem backslash_not_mem_escaped {text : String} :
    '\\' ∉ (escaped text).toList ↔ Verbatim text.toList := by
  rw [escaped, String.toList_ofList]
  simp only [List.mem_flatMap, backslash_mem_escape, not_exists, not_and, Decidable.not_not,
    Verbatim]

end StoreSchema.Json
