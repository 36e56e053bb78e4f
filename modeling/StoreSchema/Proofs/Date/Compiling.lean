import Mathlib.Data.List.Sort
import StoreSchema.Date.Format
import StoreSchema.Proofs.Date.Expanding

/-! # Compiling named formats

A format that lists one name, and besides it a marker for numbers at most, is compiled into the
layouts of the pattern that the name stands for. Texts are written in the first of them: the layout
of the longest choice of optional sections.
-/

namespace StoreSchema

namespace Date

/-! ## The longest choice -/

/-- The items of the choice of a pattern that stands first, if it is longer than all others. -/
def mainItems? (pattern : List Char) : Option (List Item) :=
  match parts pattern with
  | .error _ => none
  | .ok parts =>
    match (choices parts).filter (!·.isEmpty) with
    | [] => none
    | first :: rest =>
      if rest.all (fun other => other.length < first.length) &&
          (first :: rest).all fun atoms => (items atoms).isOk then
        (items first).toOption
      else none

theorem expand_main {pattern : List Char} {row : List Item} (main : mainItems? pattern = some row) :
    ∃ others, expand pattern = .ok (⟨row⟩ :: others) := by
  unfold mainItems? at main
  cases read : parts pattern with
  | error fault => simp [read] at main
  | ok tree =>
      simp only [read] at main
      split at main
      next => cases main
      next first rest chosen =>
        split at main
        next holds =>
          rw [Bool.and_eq_true] at holds
          obtain ⟨longest, each⟩ := holds
          simp only [List.all_eq_true, decide_eq_true_eq] at longest each
          obtain ⟨others, sorted⟩ := head_of_mergeSort fun other inside => (longest other inside).le
          obtain ⟨layouts, built⟩ := layoutsOf_ok fun atoms inside =>
            Outcome.isOk_iff.mp (each atoms (List.mem_mergeSort.mp (by rw [sorted]; exact inside)))
          obtain ⟨layout, later, made, -, rfl⟩ :=
            List.forall₂_cons_left_iff.mp (layoutsOf_eq_ok.mp built)
          obtain rfl : row = layout.items :=
            Except.ok.inj ((Outcome.toOption_eq_some.mp main).symm.trans made)
          refine ⟨Layout.distinct [layout.canonical] later, ?_⟩
          have ordered : filled tree = first :: others := by rw [filled, chosen, sorted]
          refine expand_eq_ok.mpr ⟨tree, layout :: later, read, ordered ▸ built, ?_, ?_⟩
          · simp [Layout.distinct]
          · exact List.cons_ne_nil _ _
        next => cases main

/-! ## Choices of different lengths -/

/-- The layouts of a pattern, if no two choices of its optional sections are of one length. -/
def layouts? (pattern : List Char) : Option (List Layout) :=
  match parts pattern with
  | .error _ => none
  | .ok tree =>
    let sorted := ((choices tree).filter (!·.isEmpty)).insertionSort fun a b => b.length ≤ a.length
    if sorted.Pairwise fun a b => b.length < a.length then
      (layoutsOf sorted).toOption.map (Layout.distinct [])
    else none

theorem mergeSort_of_lengths {rows sorted : List (List Atom)} (perm : sorted.Perm rows)
    (shorter : sorted.Pairwise fun a b => b.length < a.length) :
    rows.mergeSort (fun a b => b.length ≤ a.length) = sorted := by
  have same : (rows.mergeSort fun a b => b.length ≤ a.length).Perm sorted :=
    (List.mergeSort_perm rows _).trans perm.symm
  refine List.Perm.eq_of_pairwise ?_ (pairwise_mergeSort rows) (shorter.imp Nat.le_of_lt) same
  intro one other first second less greater
  have apart : (sorted.map List.length).Nodup :=
    List.pairwise_map.mpr (shorter.imp fun less => by omega)
  have equal : one.length = other.length := by omega
  exact List.inj_on_of_nodup_map apart (same.mem_iff.mp first) second equal

theorem expand_layouts {pattern : List Char} {layouts : List Layout}
    (found : layouts? pattern = some layouts) (nonempty : layouts ≠ []) :
    expand pattern = .ok layouts := by
  unfold layouts? at found
  cases read : parts pattern with
  | error fault => simp [read] at found
  | ok tree =>
      simp only [read, Option.ite_none_right_eq_some, Option.map_eq_some_iff] at found
      obtain ⟨shorter, rows, built, rfl⟩ := found
      have sorted := mergeSort_of_lengths (List.perm_insertionSort _ _) shorter
      refine expand_eq_ok.mpr ⟨tree, rows, read, ?_, rfl, ?_⟩
      · rw [filled, sorted]
        exact Outcome.toOption_eq_some.mp built
      · rintro rfl
        exact nonempty rfl

end Date

namespace DateFormat

/-! ## Named formats -/

/-- A source lists one format, and besides it a marker for numbers at most. -/
def ListsAlone (name source : String) : Prop :=
  listed source = [name] ∨ ∃ marker, (EpochUnit.ofMarker? marker).isSome ∧
    (listed source = [name, marker] ∨ listed source = [marker, name])

theorem gather_alone {source name : String} (alone : ListsAlone name source)
    (unmarked : EpochUnit.ofMarker? name = none) :
    ∃ epoch, gather source none [] (listed source) = .ok (epoch, [Date.patternOf name]) := by
  obtain same | ⟨marker, marks, same | same⟩ := alone
  · exact ⟨none, by simp [same, gather, unmarked]⟩
  · obtain ⟨unit, found⟩ := Option.isSome_iff_exists.mp marks
    exact ⟨some unit, by simp [same, gather, unmarked, found]⟩
  · obtain ⟨unit, found⟩ := Option.isSome_iff_exists.mp marks
    exact ⟨some unit, by simp [same, gather, unmarked, found]⟩

theorem compile_expanded {source pattern : String} {epoch : Option EpochUnit}
    (gathered : gather source none [] (listed source) = .ok (epoch, [pattern]))
    {layouts : List Date.Layout} (expanded : Date.expand pattern.toList = .ok layouts)
    {first : Date.Layout} {others : List Date.Layout}
    (once : Date.Layout.distinct [] layouts = first :: others) :
    compile source none false = .ok ⟨source, first :: others, epoch, some first, false⟩ := by
  have all : expandAll [pattern] = .ok (first :: others) := by
    simp [expandAll, expand, expanded, once, bind, Except.bind, pure, Except.pure]
  have nothing : ∀ layouts epoch, preferenceOf layouts epoch
      (String.ofList (Text.trim ((none : Option String).getD "").toList)) = .ok .nothing := by
    intro layouts epoch
    rfl
  rw [compile, gathered, Outcome.ok_bind]
  simp only [List.isEmpty_cons, Bool.false_and, Bool.false_eq_true, if_false, all, Outcome.ok_bind,
    nothing]
  rfl

theorem compile_pattern {source pattern : String} {epoch : Option EpochUnit}
    (gathered : gather source none [] (listed source) = .ok (epoch, [pattern]))
    {row : List Date.Item} (main : Date.mainItems? pattern.toList = some row) :
    ∃ others, compile source none false =
      .ok ⟨source, ⟨row⟩ :: others, epoch, some ⟨row⟩, false⟩ := by
  obtain ⟨others, expanded⟩ := Date.expand_main main
  have first : Date.Layout.distinct [] (⟨row⟩ :: others) =
      ⟨row⟩ :: Date.Layout.distinct [Date.Layout.canonical ⟨row⟩] others := by
    simp [Date.Layout.distinct]
  exact ⟨_, compile_expanded gathered expanded first⟩

theorem ofRaw_first {format : DateFormat} {raw : String} {text : List Char}
    {layout : Date.Layout} {others : List Date.Layout} {moment : Moment}
    (quoted : unquoted? (Text.trim raw.toList) = some text)
    (layouts : format.layouts = layout :: others) (read : layout.scan text = .ok moment) :
    format.ofRaw raw = .ok moment := by
  simp only [ofRaw, quoted, ofText, layouts, String.toList_ofList, tryLayouts, read]

end DateFormat

end StoreSchema
