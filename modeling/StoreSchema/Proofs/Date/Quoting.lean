import StoreSchema.Date.Format
import StoreSchema.Proofs.Date.Scanning
import StoreSchema.Proofs.Json.Escapes

/-! # Texts of dates in quotes

A format sees of a string what stands between the quotes. What a layout writes stands there as it
is, unless one of its literals has to be escaped.
-/

namespace StoreSchema

namespace Date

open Json (Unescaped Verbatim)

/-! ## What layouts write -/

/-- The text that an item holds. -/
def Item.fixed : Item → List Char
  | .literal text | .space text => text
  | _ => []

/-- The texts that the items of a layout hold. -/
def Layout.fixed (layout : Layout) : List Char :=
  layout.items.flatMap Item.fixed

section

variable {c : Char}

theorem unescaped_of_isDigit (digit : c.isDigit) : Unescaped c := by
  have range := Text.isDigit_iff.mp digit
  refine ⟨?_, ?_, by omega⟩
  · rintro rfl
    cases digit
  · rintro rfl
    cases digit

theorem unescaped_padded {width n : Nat} (inside : c ∈ Text.padded width n) : Unescaped c :=
  unescaped_of_isDigit (Text.isDigit_of_mem_padded inside)

theorem unescaped_fraction {nanos : Nat} (inside : c ∈ Moment.fractionChars nanos) :
    Unescaped c := by
  rcases fractionChars_cases nanos with none | ⟨width, n, print⟩
  · rw [none] at inside
    cases inside
  · rw [print] at inside
    rcases List.mem_cons.mp inside with rfl | digit
    · decide
    · exact unescaped_padded digit

theorem unescaped_offset {offset : Int} (inside : c ∈ Moment.offsetChars offset) :
    Unescaped c := by
  simp only [Moment.offsetChars, List.cons_append, List.mem_cons, List.mem_append] at inside
  rcases inside with sign | hours | rfl | minutes
  · split at sign <;> (rw [sign]; decide)
  · exact unescaped_padded hours
  · decide
  · exact unescaped_padded minutes

theorem mem_of_mem_nameAt {names : List String} {index : Nat} (inside : c ∈ nameAt names index) :
    ∃ name ∈ names, c ∈ name.toList := by
  rw [nameAt] at inside
  cases found : names[index]? with
  | none => simp [found] at inside
  | some name =>
      rw [found] at inside
      exact ⟨name, List.mem_of_getElem? found, inside⟩

theorem unescaped_month {index : Nat} (inside : c ∈ nameAt monthNames index) : Unescaped c := by
  have each : ∀ name ∈ monthNames, Verbatim name.toList := by decide
  obtain ⟨name, listed, here⟩ := mem_of_mem_nameAt inside
  exact each name listed c here

theorem unescaped_weekday {index : Nat} (inside : c ∈ nameAt weekdayNames index) :
    Unescaped c := by
  have each : ∀ name ∈ weekdayNames, Verbatim name.toList := by decide
  obtain ⟨name, listed, here⟩ := mem_of_mem_nameAt inside
  exact each name listed c here

theorem Item.unescaped_print {item : Item} {time : Moment.Local} {offset : Int}
    (fixed : Verbatim item.fixed) (inside : c ∈ item.print time offset) :
    Unescaped c := by
  cases item with
  | literal | space => exact fixed c inside
  | number => exact unescaped_of_isDigit (isDigit_of_mem_numberChars inside)
  | shortMonth => exact unescaped_month (List.mem_of_mem_take inside)
  | longMonth => exact unescaped_month inside
  | shortWeekday => exact unescaped_weekday (List.mem_of_mem_take inside)
  | longWeekday => exact unescaped_weekday inside
  | halfDay =>
      have letters : Verbatim ['A', 'M'] ∧ Verbatim ['P', 'M'] := by decide
      rw [Item.print] at inside
      split at inside
      next => exact letters.1 c inside
      next => exact letters.2 c inside
  | fraction => exact unescaped_fraction inside
  | pointed =>
      rcases List.mem_cons.mp inside with rfl | digit
      · decide
      · exact unescaped_padded digit
  | bare => exact unescaped_padded inside
  | offset =>
      rw [Item.print] at inside
      split at inside
      next =>
        cases List.mem_singleton.mp inside
        decide
      next => exact unescaped_offset inside

theorem Layout.print_verbatim {layout : Layout} (fixed : Verbatim layout.fixed) (m : Moment) :
    Verbatim (layout.print m) := by
  intro c inside
  obtain ⟨item, member, here⟩ := List.mem_flatMap.mp inside
  exact Item.unescaped_print (fun d held => fixed d (List.mem_flatMap.mpr ⟨item, member, held⟩)) here

end

end Date

/-! ## What formats see -/

theorem Text.trim_quoted (text : List Char) :
    trim ('"' :: text ++ ['"']) = '"' :: text ++ ['"'] := by
  have backwards : ('"' :: text ++ ['"']).reverse = '"' :: text.reverse ++ ['"'] := by simp
  rw [trim, List.cons_append, trimStart_cons (by decide), ← List.cons_append, backwards,
    List.cons_append, trimStart_cons (by decide), ← List.cons_append, ← backwards,
    List.reverse_reverse]

theorem DateFormat.unquoted_str (text : String) :
    unquoted? (Text.trim (Json.str text).text.toList) = some (Json.escaped text).toList := by
  simp only [Json.text, Json.chars, Json.stringChars, String.toList_ofList, Text.trim_quoted,
    Json.escaped]
  simp [unquoted?]

theorem DateFormat.ofJson_str (format : DateFormat) (text : String) :
    format.ofJson (.str text) = format.ofText (Json.escaped text) := by
  simp only [ofJson, ofRaw, unquoted_str, String.ofList_toList]

end StoreSchema
