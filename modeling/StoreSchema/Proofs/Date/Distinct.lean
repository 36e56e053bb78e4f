import Mathlib.Data.List.Nodup
import StoreSchema.Date.Layout

/-! # Layouts without repetitions

Of layouts with the same canonical text the first one stays. All texts stay, each of them once, and
what stays of a front is the front of what stays.
-/

namespace StoreSchema.Date.Layout

variable {seen : List String} {layouts : List Layout}

theorem distinct_sublist : (distinct seen layouts).Sublist layouts := by
  induction layouts generalizing seen with
  | nil => exact .slnil
  | cons first rest ih =>
      rw [distinct]
      split
      next => exact ih.cons first
      next => exact ih.cons_cons first

/-- A layout stands among others, and none before it has a text. -/
def Leads (layouts : List Layout) (layout : Layout) (text : String) : Prop :=
  ∃ before after, layouts = before ++ layout :: after ∧ text ∉ before.map canonical

theorem Leads.cons {first layout : Layout} {text : String} (leads : Leads layouts layout text)
    (other : text ≠ first.canonical) : Leads (first :: layouts) layout text := by
  obtain ⟨before, after, rfl, absent⟩ := leads
  exact ⟨first :: before, after, rfl, by simpa [other] using absent⟩

theorem leads_of_mem_distinct {layout : Layout} (stays : layout ∈ distinct seen layouts) :
    Leads layouts layout layout.canonical ∧ layout.canonical ∉ seen := by
  induction layouts generalizing seen with
  | nil => cases stays
  | cons first rest ih =>
      rw [distinct] at stays
      split at stays
      next old =>
        obtain ⟨leads, new⟩ := ih stays
        refine ⟨leads.cons ?_, new⟩
        intro same
        exact new (same ▸ by simpa using old)
      next fresh =>
        rcases List.mem_cons.mp stays with rfl | later
        · exact ⟨⟨[], rest, rfl, List.not_mem_nil⟩, by simpa using fresh⟩
        · obtain ⟨leads, new⟩ := ih later
          simp only [List.mem_cons, not_or] at new
          exact ⟨leads.cons new.1, new.2⟩

theorem canonical_mem_distinct {text : String} :
    text ∈ (distinct seen layouts).map canonical ↔
      text ∈ layouts.map canonical ∧ text ∉ seen := by
  constructor
  · intro stays
    obtain ⟨layout, kept, rfl⟩ := List.mem_map.mp stays
    exact ⟨List.mem_map_of_mem (distinct_sublist.subset kept), (leads_of_mem_distinct kept).2⟩
  · rintro ⟨inside, new⟩
    induction layouts generalizing seen with
    | nil => cases inside
    | cons first rest ih =>
        rw [List.map_cons, List.mem_cons] at inside
        rw [distinct]
        split
        next old =>
          refine ih ?_ new
          refine inside.resolve_left ?_
          rintro rfl
          exact new (by simpa using old)
        next =>
          rw [List.map_cons, List.mem_cons]
          by_cases same : text = first.canonical
          · exact .inl same
          · exact .inr (ih (inside.resolve_left same) (by simp [same, new]))

theorem nodup_distinct : ((distinct seen layouts).map canonical).Nodup := by
  induction layouts generalizing seen with
  | nil => exact List.nodup_nil
  | cons first rest ih =>
      rw [distinct]
      split
      next => exact ih
      next =>
        rw [List.map_cons, List.nodup_cons]
        exact ⟨fun again => (canonical_mem_distinct.mp again).2 List.mem_cons_self, ih⟩

theorem pairwise_distinct :
    (distinct seen layouts).Pairwise fun one other => Leads layouts one other.canonical := by
  induction layouts generalizing seen with
  | nil => exact .nil
  | cons first rest ih =>
      rw [distinct]
      split
      next old =>
        refine ih.imp_of_mem fun _ stays leads => leads.cons ?_
        intro same
        exact (leads_of_mem_distinct stays).2 (same ▸ by simpa using old)
      next =>
        refine List.pairwise_cons.mpr ⟨?_, ?_⟩
        · intro other _
          exact ⟨[], rest, rfl, List.not_mem_nil⟩
        · refine ih.imp_of_mem fun _ stays leads => leads.cons ?_
          intro same
          exact (leads_of_mem_distinct stays).2 (same ▸ List.mem_cons_self)

theorem distinct_prefix (more : List Layout) :
    distinct seen layouts <+: distinct seen (layouts ++ more) := by
  induction layouts generalizing seen with
  | nil => exact List.nil_prefix
  | cons first rest ih =>
      rw [List.cons_append, distinct, distinct]
      split
      next => exact ih
      next => exact List.cons_prefix_cons.mpr ⟨rfl, ih⟩

theorem distinct_eq_nil_iff : distinct [] layouts = [] ↔ layouts = [] := by
  cases layouts with
  | nil => simp [distinct]
  | cons first rest => simp [distinct]

end StoreSchema.Date.Layout
