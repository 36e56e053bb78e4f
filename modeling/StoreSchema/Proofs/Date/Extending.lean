import StoreSchema.Proofs.Date.Precedence
import StoreSchema.Proofs.Date.Reproducing

/-! # Extending formats

Names that are added behind those of a format add layouts behind its layouts, and a unit at most.
What the format read is read the same afterwards; and if it wrote texts, it still writes the same
ones.
-/

namespace StoreSchema.DateFormat

/-! ## Sources from names -/

/-- The source that lists names. -/
def joined (names : List String) : String :=
  "||".intercalate names

/-- A text that can be listed: not blank, and without a bar. -/
structure Listable (name : String) : Prop where
  visible : Text.trim name.toList ≠ []
  unbarred : '|' ∉ name.toList

section

variable {text : List Char}

theorem alternatives_cons {c : Char} (other : c ≠ '|') (rest : List Char) {first : List Char}
    {others : List (List Char)} (later : alternatives rest = first :: others) :
    alternatives (c :: rest) = (c :: first) :: others := by
  rw [alternatives, later]
  rintro more rfl
  exact absurd rfl other

theorem alternatives_unbarred (unbarred : '|' ∉ text) : alternatives text = [text] := by
  induction text with
  | nil => rfl
  | cons c rest ih =>
      rw [List.mem_cons, not_or] at unbarred
      exact alternatives_cons (Ne.symm unbarred.1) rest (ih unbarred.2)

theorem alternatives_append (unbarred : '|' ∉ text) (rest : List Char) :
    alternatives (text ++ '|' :: '|' :: rest) = text :: alternatives rest := by
  induction text with
  | nil => rw [List.nil_append, alternatives]
  | cons c more ih =>
      rw [List.mem_cons, not_or] at unbarred
      exact alternatives_cons (Ne.symm unbarred.1) _ (ih unbarred.2)

end

section

variable {names : List String}

theorem alternatives_joined (nonempty : names ≠ []) (each : ∀ name ∈ names, Listable name) :
    alternatives (joined names).toList = names.map String.toList := by
  induction names with
  | nil => contradiction
  | cons name rest ih =>
      have here := each name List.mem_cons_self
      cases rest with
      | nil =>
          rw [joined, String.intercalate_singleton]
          exact alternatives_unbarred here.unbarred
      | cons next others =>
          have later := ih (List.cons_ne_nil _ _) fun other inside =>
            each other (List.mem_cons_of_mem _ inside)
          have bars : (joined (name :: next :: others)).toList =
              name.toList ++ '|' :: '|' :: (joined (next :: others)).toList := by
            simp [joined, String.intercalate_cons_cons]
          rw [bars, alternatives_append here.unbarred, later]
          rfl

theorem listed_joined (each : ∀ name ∈ names, Listable name) :
    listed (joined names) = names.map fun name => String.ofList (Text.trim name.toList) := by
  by_cases none : names = []
  · subst none
    rfl
  · rw [listed, alternatives_joined none each, List.map_map, List.filterMap_map,
      ← List.filterMap_eq_map]
    refine List.filterMap_congr fun name inside => ?_
    have visible := (each name inside).visible
    simp [visible]

end

/-! ## Gathering more names -/

section

variable {source other : String} {epoch : Option EpochUnit} {patterns names : List String}
  {result : Option EpochUnit × List String}

theorem gather_append (more : List String) :
    gather source epoch patterns (names ++ more) =
      (gather source epoch patterns names >>= fun early =>
        gather source early.1 early.2 more) := by
  induction names generalizing epoch patterns with
  | nil => rfl
  | cons name rest ih =>
      rw [List.cons_append, gather, gather]
      split
      next =>
        split
        next => rfl
        next => exact ih
      next =>
        dsimp only
        split
        next => rfl
        next => exact ih

theorem gather_source (gathered : gather source epoch patterns names = .ok result) :
    gather other epoch patterns names = .ok result := by
  induction names generalizing epoch patterns with
  | nil => exact gathered
  | cons name rest ih =>
      rw [gather] at gathered ⊢
      split at gathered
      next unit marks =>
        split at gathered
        next => cases gathered
        next fresh => simpa only [marks, if_neg fresh] using ih gathered
      next unmarked =>
        dsimp only at gathered
        split at gathered
        next => cases gathered
        next fresh => simpa only [unmarked, if_neg fresh] using ih gathered

theorem gather_patterns (gathered : gather source epoch patterns names = .ok result) :
    patterns <+: result.2 := by
  induction names generalizing epoch patterns with
  | nil =>
      cases gathered
      exact List.prefix_refl _
  | cons name rest ih =>
      rw [gather] at gathered
      split at gathered
      next =>
        split at gathered
        next => cases gathered
        next => exact ih gathered
      next =>
        dsimp only at gathered
        split at gathered
        next => cases gathered
        next => exact (List.prefix_append _ _).trans (ih gathered)

theorem names_eq_nil (gathered : gather source none [] names = .ok (none, [])) : names = [] := by
  cases names with
  | nil => rfl
  | cons name rest =>
      rw [gather] at gathered
      split at gathered
      next unit marks =>
        have kept := (gather_epoch gathered unit).mpr (.inl rfl)
        cases kept
      next unmarked =>
        have kept := gather_patterns gathered
        simp at kept

end

/-! ## Compiling more names -/

theorem expandAll_prefix {patterns more : List String} {layouts : List Date.Layout}
    (expanded : expandAll (patterns ++ more) = .ok layouts) :
    ∃ early, expandAll patterns = .ok early ∧ early <+: layouts := by
  obtain ⟨each, made, rfl⟩ := expandAll_eq_ok.mp expanded
  rw [List.mapM_append] at made
  obtain ⟨front, here, made⟩ := Outcome.bind_eq_ok.mp made
  obtain ⟨back, -, made⟩ := Outcome.bind_eq_ok.mp made
  cases made
  refine ⟨Date.Layout.distinct [] front.flatten, expandAll_eq_ok.mpr ⟨front, here, rfl⟩, ?_⟩
  rw [List.flatten_append]
  exact Date.Layout.distinct_prefix back.flatten

theorem compile_plain {source : String} {format : DateFormat} :
    compile source none false = .ok format ↔
      ∃ epoch patterns layouts,
        gather source none [] (listed source) = .ok (epoch, patterns) ∧
          ¬(patterns = [] ∧ epoch = none) ∧ expandAll patterns = .ok layouts ∧
            format = settled source layouts epoch false .nothing := by
  rw [compile_eq_ok]
  constructor
  · rintro ⟨epoch, patterns, layouts, preference, gathered, filled, expanded, stated, rfl⟩
    cases stated
    exact ⟨epoch, patterns, layouts, gathered, filled, expanded, rfl⟩
  · rintro ⟨epoch, patterns, layouts, gathered, filled, expanded, rfl⟩
    exact ⟨epoch, patterns, layouts, .nothing, gathered, filled, expanded, rfl, rfl⟩

/-- A format has the layouts of another one in front. It reads as the other one does whatever that
    one reads, and it writes the same if that one has a layout. -/
structure Extends (longer shorter : DateFormat) : Prop where
  layouts : shorter.layouts <+: longer.layouts
  reads : ∀ raw moment, shorter.ofRaw raw = .ok moment → longer.ofRaw raw = .ok moment
  writes : shorter.layouts ≠ [] → ∀ moment, longer.toJson moment = shorter.toJson moment

section

variable {longer shorter : DateFormat}

theorem ofText_prefix (front : shorter.layouts <+: longer.layouts) {text : String}
    {moment : Moment} (read : shorter.ofText text = .ok moment) :
    longer.ofText text = .ok moment := by
  obtain ⟨more, whole⟩ := front
  exact ofText_eq_ok.mpr (whole ▸ (ofText_eq_ok.mp read).append more)

theorem ofRaw_prefix (front : shorter.layouts <+: longer.layouts)
    (unit : ∀ own, shorter.epoch = some own → longer.epoch = some own) {raw : String}
    {moment : Moment} (read : shorter.ofRaw raw = .ok moment) :
    longer.ofRaw raw = .ok moment := by
  rw [ofRaw] at read ⊢
  cases quoted : unquoted? (Text.trim raw.toList) with
  | some text =>
      rw [quoted] at read
      exact ofText_prefix front read
  | none =>
      rw [quoted] at read
      cases number : Number.int? (Text.trim raw.toList) with
      | none =>
          rw [number] at read
          cases read
      | some value =>
          rw [number] at read
          dsimp only at read ⊢
          split at read
          next counts =>
            obtain ⟨own, counted⟩ := Option.isSome_iff_exists.mp counts
            rw [unit own counted]
            simp only [ofEpoch, counted, unit own counted] at read ⊢
            exact read
          next => cases read

end

theorem settled_extends {source other : String} {early layouts : List Date.Layout}
    {unit epoch : Option EpochUnit} (front : early <+: layouts)
    (kept : ∀ own, unit = some own → epoch = some own) :
    (settled other layouts epoch false .nothing).Extends
      (settled source early unit false .nothing) where
  layouts := front
  reads _ _ := ofRaw_prefix front kept
  writes nonempty moment := by
    obtain ⟨first, rest, same⟩ := List.exists_cons_of_ne_nil nonempty
    cases same
    obtain ⟨more, rfl⟩ := front
    rfl

end StoreSchema.DateFormat

namespace StoreSchema

open DateFormat in
/-- Extending a format is conservative: if a source that lists some names and then others can be
    compiled, one that lists the former alone can be compiled too, and the format of all of them
    extends its format. -/
theorem extending_is_conservative {names more : List String} (nonempty : names ≠ [])
    (each : ∀ name ∈ names ++ more, Listable name) {longer : DateFormat}
    (compiled : compile (joined (names ++ more)) none false = .ok longer) :
    ∃ shorter, compile (joined names) none false = .ok shorter ∧ longer.Extends shorter := by
  obtain ⟨epoch, patterns, layouts, gathered, -, expanded, rfl⟩ := compile_plain.mp compiled
  rw [listed_joined each, List.map_append, gather_append] at gathered
  obtain ⟨⟨unit, early⟩, here, later⟩ := Outcome.bind_eq_ok.mp gathered
  have own : gather (joined names) none [] (listed (joined names)) = .ok (unit, early) := by
    rw [listed_joined fun name inside => each name (List.mem_append_left _ inside)]
    exact gather_source here
  have filled : ¬(early = [] ∧ unit = none) := by
    rintro ⟨rfl, rfl⟩
    exact nonempty (List.map_eq_nil_iff.mp (names_eq_nil here))
  obtain ⟨others, rfl⟩ := gather_patterns later
  obtain ⟨front, expandedFront, isFront⟩ := expandAll_prefix expanded
  refine ⟨_, compile_plain.mpr ⟨unit, early, front, own, filled, expandedFront, rfl⟩, ?_⟩
  exact settled_extends isFront fun own counted => (gather_epoch later own).mpr (.inl counted)

namespace Sample

/-- A format with a layout, behind which another one and a unit are added. -/
def appended : DateFormat :=
  ⟨"yyyy-MM-dd||yyyy/MM/dd||epoch_second", [dashed, slashed], some .seconds, some dashed, false⟩

theorem appended_compiled :
    DateFormat.compile (DateFormat.joined (["yyyy-MM-dd"] ++ ["yyyy/MM/dd", "epoch_second"]))
      none false = .ok appended :=
  Outcome.toOption_eq_some.mp (by decide +kernel)

theorem appended_listable :
    ∀ name ∈ ["yyyy-MM-dd"] ++ ["yyyy/MM/dd", "epoch_second"], DateFormat.Listable name := by
  intro name inside
  simp only [List.cons_append, List.nil_append, List.mem_cons, List.not_mem_nil, or_false] at inside
  rcases inside with rfl | rfl | rfl <;> exact ⟨by decide, by decide⟩

end Sample

theorem sample_extending_is_conservative :
    ∃ shorter, DateFormat.compile "yyyy-MM-dd" none false = .ok shorter ∧
      Sample.appended.Extends shorter :=
  extending_is_conservative (List.cons_ne_nil _ _) Sample.appended_listable Sample.appended_compiled

end StoreSchema
