import Mathlib.Order.Bounds.Basic
import StoreSchema.Proofs.Date.Distinct
import StoreSchema.Proofs.Date.Runs
import StoreSchema.Proofs.Date.Spelling
import StoreSchema.Proofs.Lists

/-! # Expanding patterns

A balanced pattern has one layout for each choice of its optional sections that leaves something,
and each of them once. They stand in the order of the longest choices that yield them, with the
choice of every section in front.
-/

namespace StoreSchema.Date

/-! ## Choices in order -/

section

variable {first : List Atom} {rest : List (List Atom)}

theorem longer_trans (a b c : List Atom) (one : decide (b.length ≤ a.length))
    (two : decide (c.length ≤ b.length)) : decide (c.length ≤ a.length) := by
  simp only [decide_eq_true_eq] at one two ⊢
  omega

theorem longer_total (a b : List Atom) :
    decide (b.length ≤ a.length) || decide (a.length ≤ b.length) := by
  simp only [Bool.or_eq_true, decide_eq_true_eq]
  omega

theorem pairwise_mergeSort (rows : List (List Atom)) :
    (rows.mergeSort fun a b => b.length ≤ a.length).Pairwise fun a b => b.length ≤ a.length :=
  (List.pairwise_mergeSort longer_trans longer_total rows).imp of_decide_eq_true

theorem head_of_mergeSort (longest : ∀ other ∈ rest, other.length ≤ first.length) :
    ∃ others, (first :: rest).mergeSort (fun a b => b.length ≤ a.length) = first :: others := by
  obtain ⟨before, after, whole, sorted, shorter⟩ :=
    List.mergeSort_cons longer_trans longer_total first rest
  cases before with
  | nil => exact ⟨after, whole⟩
  | cons other others =>
      have inside : other ∈ rest := List.mem_mergeSort.mp (by rw [sorted]; simp)
      have below := shorter other List.mem_cons_self
      simp [longest other inside] at below

end

/-- The choices of sections that leave something, the longest first. -/
def filled (tree : List Part) : List (List Atom) :=
  ((choices tree).filter (!·.isEmpty)).mergeSort fun a b => b.length ≤ a.length

section

variable {tree : List Part} {atoms : List Atom}

theorem mem_filled : atoms ∈ filled tree ↔ Selects tree atoms ∧ atoms ≠ [] := by
  rw [filled, List.mem_mergeSort, List.mem_filter, mem_choices]
  simp

theorem head_filled (nonempty : allAtoms tree ≠ []) :
    ∃ others, filled tree = allAtoms tree :: others := by
  obtain ⟨others, first⟩ := choices_head tree
  rw [filled, first, List.filter_cons_of_pos (by simpa using nonempty)]
  refine head_of_mergeSort fun other inside => ?_
  have chosen : other ∈ choices tree :=
    first ▸ List.mem_cons_of_mem _ (List.mem_of_mem_filter inside)
  exact (mem_choices.mp chosen).sublist.length_le

theorem length_filled (tree : List Part) : (filled tree).length ≤ 2 ^ sections tree := by
  rw [filled, List.length_mergeSort]
  exact (List.length_filter_le _ _).trans (length_choices tree)

theorem allAtoms_ne_nil (selects : Selects tree atoms) (nonempty : atoms ≠ []) : allAtoms tree ≠ [] := by
  intro none
  exact nonempty (List.sublist_nil.mp (none ▸ selects.sublist))

end

/-! ## Layouts of choices -/

theorem layoutsOf_eq_ok {rows : List (List Atom)} {layouts : List Layout} :
    layoutsOf rows = .ok layouts ↔
      List.Forall₂ (fun atoms layout => items atoms = .ok layout.items) rows layouts := by
  induction rows generalizing layouts with
  | nil => simp [layoutsOf, eq_comm]
  | cons atoms rest ih =>
      rw [layoutsOf, Outcome.bind_eq_ok, List.forall₂_cons_left_iff]
      constructor
      · rintro ⟨row, here, more⟩
        obtain ⟨others, later, same⟩ := Outcome.bind_eq_ok.mp more
        cases same
        exact ⟨⟨row⟩, others, here, ih.mp later, rfl⟩
      · rintro ⟨⟨row⟩, others, here, later, rfl⟩
        exact ⟨row, here, by rw [ih.mpr later]; rfl⟩

theorem layoutsOf_ok {rows : List (List Atom)}
    (each : ∀ atoms ∈ rows, ∃ row, items atoms = .ok row) :
    ∃ layouts, layoutsOf rows = .ok layouts := by
  induction rows with
  | nil => exact ⟨[], rfl⟩
  | cons atoms rest ih =>
      obtain ⟨row, here⟩ := each atoms List.mem_cons_self
      obtain ⟨layouts, later⟩ := ih fun other inside => each other (List.mem_cons_of_mem _ inside)
      exact ⟨⟨row⟩ :: layouts, by rw [layoutsOf, here, later]; rfl⟩

theorem expand_eq_ok {pattern : List Char} {layouts : List Layout} :
    expand pattern = .ok layouts ↔
      ∃ tree rows, parts pattern = .ok tree ∧ layoutsOf (filled tree) = .ok rows ∧
        Layout.distinct [] rows = layouts ∧ rows ≠ [] := by
  rw [expand, Outcome.bind_eq_ok]
  refine exists_congr fun tree => ?_
  constructor
  · rintro ⟨read, compiled⟩
    obtain ⟨rows, built, compiled⟩ := Outcome.bind_eq_ok.mp compiled
    split at compiled
    next => cases compiled
    next nonempty =>
      cases compiled
      refine ⟨rows, read, built, rfl, ?_⟩
      rintro rfl
      exact nonempty rfl
  · rintro ⟨rows, read, built, rfl, nonempty⟩
    refine ⟨read, Outcome.bind_eq_ok.mpr ⟨rows, built, ?_⟩⟩
    split
    next none => exact absurd (Layout.distinct_eq_nil_iff.mp none) nonempty
    next => rfl

theorem expand_ne_nil {pattern : List Char} {layouts : List Layout}
    (expanded : expand pattern = .ok layouts) : layouts ≠ [] := by
  obtain ⟨tree, rows, -, -, rfl, nonempty⟩ := expand_eq_ok.mp expanded
  exact mt Layout.distinct_eq_nil_iff.mp nonempty

/-! ## What the layouts are -/

/-- A choice of sections leaves something that has a canonical text. -/
structure Yields (tree : List Part) (text : String) (atoms : List Atom) : Prop where
  selects : Selects tree atoms
  nonempty : atoms ≠ []
  renders : ∃ layout : Layout, items atoms = .ok layout.items ∧ layout.canonical = text

/-- How many atoms the choices with a canonical text leave. -/
def lengths (tree : List Part) (text : String) : Set Nat :=
  { n | ∃ atoms, Yields tree text atoms ∧ atoms.length = n }

/-- The layouts of a row of parts are those of all choices of its sections that leave something, up
    to canonical texts, each once. They stand in the order of the longest choices that yield them,
    and the choice of every section comes first. -/
structure Expansion (tree : List Part) (layouts : List Layout) : Prop where
  distinct : (layouts.map Layout.canonical).Nodup
  texts : ∀ text, text ∈ layouts.map Layout.canonical ↔ ∃ atoms, Yields tree text atoms
  few : layouts.length ≤ 4096
  longest : ∀ layout ∈ layouts, ∃ atoms, Yields tree layout.canonical atoms ∧
    items atoms = .ok layout.items ∧ IsGreatest (lengths tree layout.canonical) atoms.length
  order : layouts.Pairwise fun one other => ∀ m n, IsGreatest (lengths tree one.canonical) m →
    IsGreatest (lengths tree other.canonical) n → n ≤ m
  first : ∃ layout others, layouts = layout :: others ∧ items (allAtoms tree) = .ok layout.items

section

variable {tree : List Part} {atoms : List Atom} {rows : List Layout} {text : String}

theorem canonical_unique {one other : Layout} (made : items atoms = .ok one.items)
    (again : items atoms = .ok other.items) : one.canonical = other.canonical := by
  cases one
  cases other
  cases made.symm.trans again
  rfl

theorem yields_iff (built : layoutsOf (filled tree) = .ok rows) :
    (∃ atoms, Yields tree text atoms) ↔ text ∈ rows.map Layout.canonical := by
  have related := layoutsOf_eq_ok.mp built
  constructor
  · rintro ⟨atoms, selects, nonempty, layout, made, rfl⟩
    obtain ⟨other, inside, again⟩ :=
      Lists.exists_right related (mem_filled.mpr ⟨selects, nonempty⟩)
    exact List.mem_map.mpr ⟨other, inside, canonical_unique again made⟩
  · intro inside
    obtain ⟨layout, member, rfl⟩ := List.mem_map.mp inside
    obtain ⟨atoms, chosen, made⟩ := Lists.exists_left related member
    obtain ⟨selects, nonempty⟩ := mem_filled.mp chosen
    exact ⟨atoms, selects, nonempty, layout, made, rfl⟩

/-- Where no layout before one has a text, no choice before the one of that layout yields it, so
    that those which do are no longer. -/
theorem exists_longest {layout : Layout} (built : layoutsOf (filled tree) = .ok rows)
    (leads : Layout.Leads rows layout text) :
    ∃ first, Yields tree layout.canonical first ∧ items first = .ok layout.items ∧
      ∀ atoms, Yields tree text atoms → atoms.length ≤ first.length := by
  obtain ⟨before, after, rfl, absent⟩ := leads
  obtain ⟨front, first, back, whole, early, made, -⟩ :=
    Lists.split_right (layoutsOf_eq_ok.mp built)
  have chosen : first ∈ filled tree := by simp [whole]
  obtain ⟨selects, nonempty⟩ := mem_filled.mp chosen
  refine ⟨first, ⟨selects, nonempty, layout, made, rfl⟩, made, ?_⟩
  intro atoms yields
  have inside := mem_filled.mpr ⟨yields.selects, yields.nonempty⟩
  have sorted : (filled tree).Pairwise fun a b => b.length ≤ a.length := pairwise_mergeSort _
  rw [whole] at inside sorted
  rcases List.mem_append.mp inside with there | here
  · obtain ⟨own, ownMade, rfl⟩ := yields.renders
    obtain ⟨other, member, again⟩ := Lists.exists_right early there
    exact absurd (List.mem_map.mpr ⟨other, member, canonical_unique again ownMade⟩) absent
  · rcases List.mem_cons.mp here with rfl | later
    · exact Nat.le_refl _
    · exact (List.pairwise_cons.mp (List.pairwise_append.mp sorted).2.1).1 atoms later

theorem expansion_of_layoutsOf (few : sections tree ≤ sectionLimit) (nonempty : rows ≠ [])
    (built : layoutsOf (filled tree) = .ok rows) : Expansion tree (Layout.distinct [] rows) where
  distinct := Layout.nodup_distinct
  texts text := by
    rw [Layout.canonical_mem_distinct, yields_iff built]
    simp
  few :=
    calc (Layout.distinct [] rows).length
        ≤ rows.length := Layout.distinct_sublist.length_le
      _ = (filled tree).length := (layoutsOf_eq_ok.mp built).length_eq.symm
      _ ≤ 2 ^ sections tree := length_filled tree
      _ ≤ 2 ^ sectionLimit := Nat.pow_le_pow_right (by omega) few
      _ = 4096 := rfl
  longest layout stays := by
    obtain ⟨leads, -⟩ := Layout.leads_of_mem_distinct stays
    obtain ⟨first, yields, made, longest⟩ := exists_longest built leads
    refine ⟨first, yields, made, ⟨first, yields, rfl⟩, ?_⟩
    rintro n ⟨atoms, other, rfl⟩
    exact longest atoms other
  order := by
    refine Layout.pairwise_distinct.imp ?_
    rintro one other leads m n ⟨-, greatest⟩ ⟨⟨atoms, yields, rfl⟩, -⟩
    obtain ⟨first, own, -, longest⟩ := exists_longest built leads
    exact (longest atoms yields).trans (greatest ⟨first, own, rfl⟩)
  first := by
    obtain ⟨one, others, rfl⟩ := List.exists_cons_of_ne_nil nonempty
    obtain ⟨atoms, rest, made, -, same⟩ :=
      List.forall₂_cons_right_iff.mp (layoutsOf_eq_ok.mp built)
    obtain ⟨selects, nonempty⟩ := mem_filled.mp (same ▸ List.mem_cons_self : atoms ∈ filled tree)
    obtain ⟨others, first⟩ := head_filled (allAtoms_ne_nil selects nonempty)
    rw [first, List.cons.injEq] at same
    exact ⟨one, _, rfl, same.1 ▸ made⟩

end

/-! ## Which patterns expand -/

/-- What makes the expansion of a pattern possible, given what it spells: few sections, something
    under some choice of them, and no run that stands for nothing under any. -/
structure Expandable (tree : List Part) : Prop where
  few : sections tree ≤ 12
  nonempty : ∃ atoms, Selects tree atoms ∧ atoms ≠ []
  supported : ∀ atoms, Selects tree atoms → atoms ≠ [] → Supported atoms

section

variable {pattern : List Char} {tree : List Part} {layouts : List Layout}

theorem exists_expand (spells : Spells pattern tree) (expandable : Expandable tree) :
    ∃ layouts, expand pattern = .ok layouts := by
  obtain ⟨atoms, selects, nonempty⟩ := expandable.nonempty
  obtain ⟨rows, built⟩ : ∃ rows, layoutsOf (filled tree) = .ok rows := by
    refine layoutsOf_ok fun chosen inside => ?_
    obtain ⟨selects, nonempty⟩ := mem_filled.mp inside
    exact (expandable.supported chosen selects nonempty).items
  refine ⟨Layout.distinct [] rows, expand_eq_ok.mpr ⟨tree, rows, ?_, built, rfl, ?_⟩⟩
  · exact parts_eq_ok.mpr ⟨spells, expandable.few⟩
  · rintro rfl
    obtain ⟨layout, inside, -⟩ :=
      Lists.exists_right (layoutsOf_eq_ok.mp built) (mem_filled.mpr ⟨selects, nonempty⟩)
    cases inside

theorem expansion_of_expand (expanded : expand pattern = .ok layouts) :
    ∃ tree, Spells pattern tree ∧ Expandable tree ∧ Expansion tree layouts := by
  obtain ⟨tree, rows, read, built, rfl, nonempty⟩ := expand_eq_ok.mp expanded
  obtain ⟨spells, few⟩ := parts_eq_ok.mp read
  have related := layoutsOf_eq_ok.mp built
  refine ⟨tree, spells, ⟨few, ?_, ?_⟩, expansion_of_layoutsOf few nonempty built⟩
  · obtain ⟨first, others, rfl⟩ := List.exists_cons_of_ne_nil nonempty
    obtain ⟨atoms, inside, -⟩ := Lists.exists_left related List.mem_cons_self
    exact ⟨atoms, mem_filled.mp inside⟩
  · intro atoms selects nonempty
    obtain ⟨layout, -, made⟩ := Lists.exists_right related (mem_filled.mpr ⟨selects, nonempty⟩)
    exact supported_of_items made

end

end StoreSchema.Date

namespace StoreSchema

open Date in
/-- A pattern can be expanded if and only if it spells something, has at most twelve sections,
    leaves something under some choice of them, and has only runs that stand for something under
    each such choice. It spells something where its quotes and brackets are balanced. Its layouts
    are those of all these choices. -/
theorem optional_sections_expand (pattern : List Char) :
    ((∃ tree, Spells pattern tree) ↔ balanced false 0 pattern) ∧
      ((∃ layouts, expand pattern = .ok layouts) ↔ ∃ tree, Spells pattern tree ∧ Expandable tree) ∧
        ∀ {tree layouts}, Spells pattern tree → expand pattern = .ok layouts →
          Expansion tree layouts := by
  refine ⟨exists_spells_iff, ⟨?_, ?_⟩, ?_⟩
  · rintro ⟨layouts, expanded⟩
    obtain ⟨tree, spells, expandable, -⟩ := expansion_of_expand expanded
    exact ⟨tree, spells, expandable⟩
  · rintro ⟨tree, spells, expandable⟩
    exact exists_expand spells expandable
  · intro tree layouts spells expanded
    obtain ⟨other, again, -, expansion⟩ := expansion_of_expand expanded
    exact spells.unique again ▸ expansion

namespace Sample

open Date (Part Layout)

/-- The parts of `HH[:mm[:ss]]`. -/
def clockParts : List Part :=
  [.atom (.char 'H'), .atom (.char 'H'),
    .optional [.atom (.char ':'), .atom (.char 'm'), .atom (.char 'm'),
      .optional [.atom (.char ':'), .atom (.char 's'), .atom (.char 's')]]]

/-- The layouts of `HH[:mm[:ss]]`. -/
def clockLayouts : List Layout :=
  [⟨[.number .hour true, .literal [':'], .number .minute true, .literal [':'],
      .number .second true]⟩,
    ⟨[.number .hour true, .literal [':'], .number .minute true]⟩,
    ⟨[.number .hour true]⟩]

end Sample

theorem sample_optional_sections_expand :
    Date.Spells "HH[:mm[:ss]]".toList Sample.clockParts ∧
      Date.expand "HH[:mm[:ss]]".toList = .ok Sample.clockLayouts ∧
        Date.Expansion Sample.clockParts Sample.clockLayouts := by
  have spells : Date.Spells "HH[:mm[:ss]]".toList Sample.clockParts :=
    (Date.parts_eq_ok.mp rfl).1
  have inOrder : Date.filled Sample.clockParts =
      (Date.choices Sample.clockParts).filter (!·.isEmpty) :=
    List.mergeSort_of_pairwise (by decide)
  have built : Date.layoutsOf (Date.filled Sample.clockParts) = .ok Sample.clockLayouts := by
    rw [inOrder]
    exact Outcome.toOption_eq_some.mp (by decide +kernel)
  have expanded : Date.expand "HH[:mm[:ss]]".toList = .ok Sample.clockLayouts :=
    Date.expand_eq_ok.mpr ⟨_, _, rfl, built, by decide, by decide⟩
  exact ⟨spells, expanded, (optional_sections_expand _).2.2 spells expanded⟩

end StoreSchema
