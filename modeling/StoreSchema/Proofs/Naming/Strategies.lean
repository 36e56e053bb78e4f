import StoreSchema.Naming.Strategy
import StoreSchema.Proofs.Json.Records
import StoreSchema.Proofs.Keyed

/-! # Saved naming strategies

A naming strategy is read back from what it is saved as.
-/

namespace StoreSchema.Naming.Strategy

open Decoding (Delivery)

theorem choice_spelling {α : Type} [DecidableEq α] (delivery : Delivery)
    (options : List (String × α)) (value : α) (once : (options.map Prod.fst).Nodup)
    (offered : value ∈ options.map Prod.snd) :
    Decoding.choice delivery (bareOptions options) (.ofJson (spelling options value)) =
      .ok value := by
  obtain ⟨entry, inside, named⟩ := List.mem_map.mp offered
  obtain ⟨⟨name, found⟩, present⟩ : ∃ entry, options.find? (·.2 = value) = some entry :=
    Option.isSome_iff_exists.mp (List.find?_isSome.mpr ⟨entry, inside, decide_eq_true named⟩)
  obtain rfl : found = value := of_decide_eq_true (List.find?_some present :)
  have known : (bareOptions options).lookup name = some (.bare found) := by
    refine (Keyed.lookup_map_value Decoding.Writing.bare options name).trans ?_
    rw [Keyed.lookup_of_mem once (List.mem_of_find?_eq_some present), Option.map_some]
  simp only [spelling, present, Document.ofJson, Decoding.choice, known]

theorem choice_affixJson (delivery : Delivery) (affix : Affix) :
    Decoding.choice delivery affixOptions (.ofJson (affixJson affix)) = .ok affix := by
  cases affix with
  | before text => cases delivery <;> rfl
  | behind text => cases delivery <;> rfl

/-- The fields of a strategy with what they are saved as. -/
def written (delivery : Delivery) (strategy : Strategy) : List (Decoding.Field Strategy × Json) :=
  (fields delivery).zip
    [spelling generations strategy.generation, spelling fallbacks strategy.fallback,
     .arr (strategy.affixes.map affixJson), spelling overlaps strategy.overlap,
     .str strategy.wireSuffix]

theorem read_toJson (delivery : Delivery) (strategy : Strategy) :
    read delivery (.ofJson strategy.toJson) = .ok strategy := by
  have generation := choice_spelling delivery generations strategy.generation
    (by decide) (by cases strategy.generation <;> decide)
  have fallback := choice_spelling delivery fallbacks strategy.fallback
    (by decide) (by cases strategy.fallback <;> decide)
  have overlap := choice_spelling delivery overlaps strategy.overlap
    (by decide) (by cases strategy.overlap <;> decide)
  have affixes : Decoding.list (Decoding.choice delivery affixOptions)
      (.ofJson (.arr (strategy.affixes.map affixJson))) = .ok strategy.affixes :=
    Decoding.list_written fun affix _ => choice_affixJson delivery affix
  have suffix : Decoding.string (.ofJson (.str strategy.wireSuffix)) =
      .ok strategy.wireSuffix := rfl
  have once : ((strategy.written delivery).map (·.1.name)).Nodup := by
    change ["generation", "fallback", "post_process", "on_overlap", "wire_suffix"].Nodup
    decide
  calc
    read delivery (.ofJson strategy.toJson) = Decoding.fill (strategy.written delivery) {} :=
        Decoding.record_fill once {} delivery "struct NamingStrategy"
    _ = .ok strategy := by
        simp only [written, fields, List.zip_cons_cons, List.zip_nil_right, Decoding.fill,
          Decoding.field, generation, fallback, affixes, overlap, suffix]
        rfl

end StoreSchema.Naming.Strategy
