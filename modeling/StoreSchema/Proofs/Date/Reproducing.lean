import StoreSchema.Proofs.Date.Expanding
import StoreSchema.Proofs.Date.Preferring

/-! # Compiling again

A format that was compiled has each layout once, and writes dates in a layout or as numbers that it
can count. Compiled again from its source, preferring numbers if it did, it is the same format.
-/

namespace StoreSchema.DateFormat

variable {source : String} {layouts : List Date.Layout}

/-! ## All layouts of a format -/

theorem expand_eq_ok {pattern : String} :
    expand pattern = .ok layouts ↔ Date.expand pattern.toList = .ok layouts := by
  constructor
  · exact expand_ok
  · intro expanded
    rw [expand, expanded]

theorem expandAll_eq_ok {patterns : List String} :
    expandAll patterns = .ok layouts ↔
      ∃ each, patterns.mapM expand = .ok each ∧ Date.Layout.distinct [] each.flatten = layouts := by
  rw [expandAll, Outcome.bind_eq_ok]
  simp only [Outcome.pure_eq_ok]

theorem patterns_eq_nil {patterns : List String} (expanded : expandAll patterns = .ok []) :
    patterns = [] := by
  obtain ⟨each, made, none⟩ := expandAll_eq_ok.mp expanded
  rw [Date.Layout.distinct_eq_nil_iff, List.flatten_eq_nil_iff] at none
  rw [List.eq_nil_iff_forall_not_mem]
  intro pattern inside
  obtain ⟨own, member, found⟩ := Lists.exists_right (Outcome.mapM_eq_ok.mp made) inside
  exact Date.expand_ne_nil (expand_ok found) (none own member)

/-! ## What every format has -/

/-- A format has each layout once. It is written in one of them, or else as numbers, for which it
    has a unit; and without layouts there are only numbers. -/
structure WellFormed (format : DateFormat) : Prop where
  distinct : format.layoutTexts.Nodup
  counted : format.prefersEpoch = true → format.epoch.isSome
  numbers : format.layouts = [] → format.prefersEpoch = true
  none_iff : format.marshalLayout = none ↔ format.prefersEpoch = true
  mem : ∀ layout, format.marshalLayout = some layout → layout ∈ format.layouts

section

variable {epoch : Option EpochUnit} {text : String} {preferEpoch : Bool} {preference : Preference}

theorem settled_prefersEpoch :
    (settled source layouts epoch preferEpoch preference).prefersEpoch = true ↔
      layouts = [] ∨ (preferEpoch = true ∧ epoch.isSome) ∨ preference = .epoch := by
  cases preference <;> simp [settled]

variable (source preferEpoch) in
theorem settled_written (stated : States layouts epoch text preference) (nonempty : layouts ≠ []) :
    ∃ layout ∈ layouts,
      (settled source layouts epoch preferEpoch preference).written = some layout := by
  cases stated with
  | nothing | epoch =>
      obtain ⟨first, rest, rfl⟩ := List.exists_cons_of_ne_nil nonempty
      exact ⟨first, List.mem_cons_self, rfl⟩
  | layout _ _ _ inside => exact ⟨_, inside, rfl⟩

theorem settled_wellFormed (stated : States layouts epoch text preference)
    (nodup : (layouts.map Date.Layout.canonical).Nodup) (counts : layouts = [] → epoch.isSome) :
    (settled source layouts epoch preferEpoch preference).WellFormed := by
  have numbers : layouts = [] →
      (settled source layouts epoch preferEpoch preference).prefersEpoch = true :=
    fun none => settled_prefersEpoch.mpr (.inl none)
  have own : (settled source layouts epoch preferEpoch preference).layouts = layouts := by
    cases preference <;> rfl
  refine ⟨?_, ?_, own.symm ▸ numbers, ?_, ?_⟩
  · rw [layoutTexts, own]
    exact nodup
  · intro prefers
    have unit : (settled source layouts epoch preferEpoch preference).epoch = epoch := by
      cases preference <;> rfl
    rw [unit]
    rcases settled_prefersEpoch.mp prefers with none | ⟨-, counts⟩ | rfl
    · exact counts none
    · exact counts
    · cases stated
      assumption
  · rw [marshalLayout]
    split
    next prefers => exact iff_of_true rfl prefers
    next texts =>
      obtain ⟨layout, -, written⟩ := settled_written source preferEpoch stated (mt numbers texts)
      exact iff_of_false (by simp [written]) texts
  · intro layout marshal
    rw [marshalLayout] at marshal
    split at marshal
    next => cases marshal
    next texts =>
      obtain ⟨other, inside, written⟩ := settled_written source preferEpoch stated (mt numbers texts)
      rw [own]
      cases written.symm.trans marshal
      exact inside

theorem settled_again :
    settled source layouts epoch
        (settled source layouts epoch preferEpoch preference).prefersEpoch preference =
      settled source layouts epoch preferEpoch preference := by
  cases preference with
  | epoch => rfl
  | nothing | layout =>
      simp only [settled]
      cases layouts.isEmpty <;> cases preferEpoch <;> cases epoch.isSome <;> rfl

end

variable {preferred : Option String} {preferEpoch : Bool} {format : DateFormat}

theorem compile_source (compiled : compile source preferred preferEpoch = .ok format) :
    format.source = source := by
  obtain ⟨_, _, _, preference, -, -, -, rfl⟩ := compile_ok compiled
  cases preference <;> rfl

theorem compile_wellFormed (compiled : compile source preferred preferEpoch = .ok format) :
    format.WellFormed := by
  obtain ⟨epoch, patterns, layouts, preference, -, filled, expanded, stated, rfl⟩ :=
    compile_eq_ok.mp compiled
  refine settled_wellFormed (preferenceOf_states stated) ?_ ?_
  · obtain ⟨each, -, rfl⟩ := expandAll_eq_ok.mp expanded
    exact Date.Layout.nodup_distinct
  · rintro rfl
    have none := patterns_eq_nil expanded
    exact Option.isSome_iff_ne_none.mpr fun uncounted => filled ⟨none, uncounted⟩

theorem compile_again (compiled : compile source preferred preferEpoch = .ok format) :
    compile source preferred format.prefersEpoch = .ok format := by
  obtain ⟨epoch, patterns, layouts, preference, gathered, filled, expanded, stated, rfl⟩ :=
    compile_eq_ok.mp compiled
  exact compile_eq_ok.mpr
    ⟨epoch, patterns, layouts, preference, gathered, filled, expanded, stated, settled_again.symm⟩

end StoreSchema.DateFormat
