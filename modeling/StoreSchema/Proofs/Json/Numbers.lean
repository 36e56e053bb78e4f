import StoreSchema.Json.Reader
import StoreSchema.Proofs.Keyed
import StoreSchema.Proofs.Number.Exactness

/-! # Numbers that documents hold

A document has no word for an infinite number, and none for what is no number. The integers of a
value that is read from a text have 64 bits, and its other numbers are finite doubles.
-/

namespace StoreSchema

open Binary64 (IsFinite)

/-- A value whose numbers can all be written out. -/
inductive Json.Sound : Json → Prop
  | null : Sound .null
  | bool (value : Bool) : Sound (.bool value)
  | int {value : Int} (low : -Nat.pow 2 63 ≤ value) (high : value ≤ Nat.pow 2 64 - 1) :
      Sound (.int value)
  | float {value : Binary64} (finite : value.IsFinite) : Sound (.float value)
  | str (value : String) : Sound (.str value)
  | arr {items : List Json} (each : ∀ item ∈ items, Sound item) : Sound (.arr items)
  | obj {members : List (String × Json)} (each : ∀ entry ∈ members, Sound entry.2) :
      Sound (.obj members)

/-- A document whose numbers, as far as it could be read, can all be written out. -/
inductive Document.Sound : Document → Prop
  | scalar {value : Option Json} (each : ∀ v ∈ value, v.Sound) : Sound (.scalar value)
  | arr {items : List Document} (ending : Ending) (each : ∀ item ∈ items, Sound item) :
      Sound (.arr items ending)
  | obj {members : List (Option String × Document)} (ending : Ending)
      (each : ∀ entry ∈ members, Sound entry.2) : Sound (.obj members ending)
  | cut : Sound .cut

/-! ## Doubles -/

namespace Json

theorem double?_ofDouble {double : Binary64} (finite : double.IsFinite) :
    (ofDouble double).double? = some double := by
  obtain ⟨negative, mantissa, exponent, rfl⟩ := finite
  rfl

theorem ofDouble_eq_null {double : Binary64} (beyond : ¬ double.IsFinite) :
    ofDouble double = .null := by
  cases double with
  | finite negative mantissa exponent => exact absurd ⟨negative, mantissa, exponent, rfl⟩ beyond
  | infinite negative => rfl
  | nan => rfl

theorem Sound.double {value : Json} (sound : value.Sound) {double : Binary64}
    (read : value.double? = some double) : double.IsFinite := by
  cases sound with
  | @int n low high =>
      cases read
      have bits : n.natAbs < 2 ^ 65 := by
        simp only [Nat.pow_eq] at low high
        omega
      refine Binary64.isFinite_ofFraction _ _ ?_
      by_cases none : n.natAbs = 0
      · rw [none]
        decide
      · exact ((Nat.log2_lt none).mpr bits).trans (by decide)
  | float finite => exact Option.some.inj read ▸ finite
  | null | bool | str | arr | obj => cases read

theorem Sound.item {items : List Json} (sound : (Json.arr items).Sound) {item : Json}
    (inside : item ∈ items) : item.Sound := by
  cases sound with
  | arr each => exact each item inside

theorem Sound.member {members : List (String × Json)} (sound : (Json.obj members).Sound)
    {key : String} {value : Json} (found : members.lookup key = some value) : value.Sound := by
  cases sound with
  | obj each => exact each (key, value) (Keyed.mem_of_lookup found)

end Json

/-! ## Values and their documents -/

namespace Document

mutual

theorem sound_ofJson : {value : Json} → value.Sound → (ofJson value).Sound
  | .null, sound | .bool _, sound | .int _, sound | .float _, sound | .str _, sound =>
      .scalar fun _ same => Option.some.inj same ▸ sound
  | .arr _, .arr each => .arr .closed (sound_ofItems each)
  | .obj _, .obj each => .obj .closed (sound_ofMembers each)

theorem sound_ofItems : {items : List Json} → (∀ item ∈ items, item.Sound) →
    ∀ item ∈ ofItems items, item.Sound
  | [], _ => List.forall_mem_nil _
  | _ :: _, each =>
      List.forall_mem_cons.mpr ⟨sound_ofJson (List.forall_mem_cons.mp each).1,
        sound_ofItems (List.forall_mem_cons.mp each).2⟩

theorem sound_ofMembers : {members : List (String × Json)} → (∀ entry ∈ members, entry.2.Sound) →
    ∀ entry ∈ ofMembers members, entry.2.Sound
  | [], _ => List.forall_mem_nil _
  | (_, _) :: _, each =>
      List.forall_mem_cons.mpr ⟨sound_ofJson (List.forall_mem_cons.mp each).1,
        sound_ofMembers (List.forall_mem_cons.mp each).2⟩

end

mutual

theorem Sound.value : {document : Document} → document.Sound → ∀ {value : Json},
    document.value? = some value → value.Sound
  | _, .scalar each, _, found => each _ found
  | _, .arr _ each, _, found => by
      rw [value?] at found
      split at found
      next =>
        obtain ⟨values, items, rfl⟩ := Option.map_eq_some_iff.mp found
        exact .arr (sound_itemValues each items)
      next => cases found
  | _, .obj _ each, _, found => by
      rw [value?] at found
      split at found
      next =>
        obtain ⟨values, members, rfl⟩ := Option.map_eq_some_iff.mp found
        exact .obj (sound_memberValues each (List.forall_mem_nil _) members)
      next => cases found
  | .cut, _, _, found => by cases found

theorem sound_itemValues : {items : List Document} → (∀ item ∈ items, item.Sound) →
    ∀ {values : List Json}, itemValues? items = some values → ∀ value ∈ values, value.Sound
  | [], _, _, found => by
      cases found
      exact List.forall_mem_nil _
  | _ :: _, each, values, found => by
      obtain ⟨here, later⟩ := List.forall_mem_cons.mp each
      simp only [itemValues?, Option.bind_eq_bind, Option.bind_eq_some_iff, Option.pure_def,
        Option.some.injEq] at found
      obtain ⟨value, first, rest, others, rfl⟩ := found
      exact List.forall_mem_cons.mpr ⟨here.value first, sound_itemValues later others⟩

theorem sound_memberValues : {members : List (Option String × Document)} →
    (∀ entry ∈ members, entry.2.Sound) → ∀ {before : List (String × Json)},
      (∀ entry ∈ before, entry.2.Sound) → ∀ {values : List (String × Json)},
        memberValues? before members = some values → ∀ entry ∈ values, entry.2.Sound
  | [], _, _, front, _, found => Option.some.inj found ▸ front
  | (_, _) :: _, each, _, front, _, found => by
      obtain ⟨here, later⟩ := List.forall_mem_cons.mp each
      simp only [memberValues?, Option.bind_eq_bind, Option.bind_eq_some_iff] at found
      obtain ⟨key, -, value, first, others⟩ := found
      refine sound_memberValues later ?_ others
      intro entry inside
      cases Keyed.mem_of_mem_put inside with
      | inl new => exact new ▸ here.value first
      | inr old => exact front entry old

end

end Document

/-! ## Texts and their documents -/

namespace Json.Reader

theorem sound_integer {negative : Bool} {n : Nat}
    (within : (if negative then 0 < n && n ≤ Nat.pow 2 63 else n < Nat.pow 2 64 : Bool) = true) :
    (Json.int (if negative then -(n : Int) else n)).Sound := by
  cases negative with
  | true =>
      simp only [if_true, Bool.and_eq_true, decide_eq_true_eq, Nat.pow_eq] at within
      refine .int ?_ ?_ <;> simp only [if_true, Nat.pow_eq] <;> omega
  | false =>
      simp only [Bool.false_eq_true, if_false, decide_eq_true_eq, Nat.pow_eq] at within
      refine .int ?_ ?_ <;> simp only [Bool.false_eq_true, if_false, Nat.pow_eq] <;> omega

theorem sound_numberValue {negative : Bool} {whole : List Char} {fraction : Option (List Char)}
    {exponent : Option Int} {value : Json}
    (read : numberValue negative whole fraction exponent = some value) : value.Sound := by
  rw [numberValue, ite_eq_iff] at read
  obtain ⟨integer, same⟩ | ⟨-, double⟩ := read
  · exact Option.some.inj same ▸ sound_integer (Bool.and_eq_true_iff.mp integer).2
  · cases parts : Numeral.double negative whole (fraction.getD []) (exponent.getD 0) with
    | finite sign mantissa exponent =>
        rw [parts] at double
        exact Option.some.inj double ▸ .float ⟨sign, mantissa, exponent, rfl⟩
    | infinite | nan =>
        rw [parts] at double
        cases double

theorem sound_takeWord {word : List Text.Sign} {value : Json} {text : List Text.Sign}
    {nonempty : word ≠ []} (sound : value.Sound) {scalar : Taken (Option Json) text}
    (taken : takeWord word value text nonempty = some scalar) :
    ∀ v ∈ scalar.part, v.Sound := by
  unfold takeWord at taken
  split at taken
  next => exact Option.some.inj taken ▸ fun v same => Option.some.inj same ▸ sound
  next => cases taken

theorem sound_takeUnsigned {negative : Bool} {text : List Text.Sign}
    {number : Taken (Option Json) text} (taken : takeUnsigned negative text = some number) :
    ∀ value ∈ number.part, value.Sound := by
  unfold takeUnsigned at taken
  split at taken
  next => cases taken
  next => cases taken
  next d more =>
    dsimp only at taken
    split at taken
    next => cases taken
    next =>
      split at taken
      next => cases taken
      next =>
        split at taken
        next => cases taken
        next =>
          split at taken
          next => cases taken
          next => exact Option.some.inj taken ▸ fun value read => sound_numberValue read

theorem sound_takeNumber {text : List Text.Sign} {number : Taken (Option Json) text}
    (taken : takeNumber text = some number) : ∀ value ∈ number.part, value.Sound := by
  unfold takeNumber at taken
  split at taken
  next unsigned =>
    split at taken
    next => cases taken
    next digits read =>
      have sound := sound_takeUnsigned read
      exact Option.some.inj taken ▸ sound
  next => exact sound_takeUnsigned taken

theorem sound_takeScalar {text : List Text.Sign} {scalar : Taken (Option Json) text}
    (taken : takeScalar text = some scalar) : ∀ value ∈ scalar.part, value.Sound := by
  simp only [takeScalar, Option.orElse_eq_or, Option.or_eq_some_iff] at taken
  obtain null | ⟨-, truth | ⟨-, falsehood | ⟨-, number⟩⟩⟩ := taken
  · exact sound_takeWord .null null
  · exact sound_takeWord (.bool true) truth
  · exact sound_takeWord (.bool false) falsehood
  · exact sound_takeNumber number

mutual

theorem sound_readDocument (text : List Text.Sign) : (readDocument text).part.Sound := by
  unfold readDocument
  split
  next => exact .cut
  next c rest shown =>
    have shorter : rest.length < text.length := length_lt_of_skipSpace shown
    dsimp only
    split
    next =>
      split
      next => exact .arr .closed (List.forall_mem_nil _)
      next => exact .arr _ (sound_readItems rest)
    next =>
      split
      next =>
        split
        next => exact .obj .closed (List.forall_mem_nil _)
        next => exact .obj _ (sound_readMembers rest)
      next =>
        split
        next =>
          split
          next => exact .cut
          next string _ =>
            refine .scalar fun value found => ?_
            obtain ⟨signs, -, rfl⟩ := Option.map_eq_some_iff.mp found
            exact .str _
        next =>
          split
          next => exact .cut
          next scalar taken => exact .scalar (sound_takeScalar taken)
termination_by (text.length, 0)

theorem sound_readItems (text : List Text.Sign) :
    ∀ item ∈ (readItems text).part.1, item.Sound := by
  have first := sound_readDocument text
  unfold readItems
  dsimp only
  split
  next => exact List.forall_mem_singleton.mpr first
  next after shorter _ =>
    split
    next => exact List.forall_mem_singleton.mpr first
    next c rest shown =>
      have left : rest.length < text.length :=
        Nat.lt_trans (length_lt_of_skipSpace shown) shorter
      split
      next => exact List.forall_mem_cons.mpr ⟨first, sound_readItems rest⟩
      next =>
        split
        next => exact List.forall_mem_singleton.mpr first
        next => exact List.forall_mem_singleton.mpr first
termination_by (text.length, 1)

theorem sound_readMembers (text : List Text.Sign) :
    ∀ entry ∈ (readMembers text).part.1, entry.2.Sound := by
  unfold readMembers
  split
  next rest shown =>
    split
    next => exact List.forall_mem_nil _
    next key _ =>
      dsimp only
      split
      next body behind =>
        have small : body.length < text.length :=
          Nat.lt_trans (length_lt_of_skipSpace behind)
            (Nat.lt_trans key.shorter (length_lt_of_skipSpace shown))
        have first := sound_readDocument body
        split
        next => exact List.forall_mem_singleton.mpr first
        next after shorter _ =>
          split
          next => exact List.forall_mem_singleton.mpr first
          next c rest behindValue =>
            have left : rest.length < text.length :=
              Nat.lt_trans (length_lt_of_skipSpace behindValue) (Nat.lt_trans shorter small)
            split
            next => exact List.forall_mem_cons.mpr ⟨first, sound_readMembers rest⟩
            next =>
              split
              next => exact List.forall_mem_singleton.mpr first
              next => exact List.forall_mem_singleton.mpr first
      next => exact List.forall_mem_singleton.mpr .cut
  next => exact List.forall_mem_nil _
termination_by (text.length, 1)

end

end Json.Reader

namespace Document

mutual

theorem Sound.limited : {document : Document} → document.Sound → ∀ (levels : Nat),
    (document.limited levels).Sound
  | _, .scalar each, _ => .scalar each
  | _, .arr _ _, 0 => .arr _ (List.forall_mem_nil _)
  | _, .arr ending each, inner + 1 => .arr ending (sound_limitedItems each inner)
  | _, .obj _ _, 0 => .obj _ (List.forall_mem_nil _)
  | _, .obj ending each, inner + 1 => .obj ending (sound_limitedMembers each inner)
  | _, .cut, _ => .cut

theorem sound_limitedItems : {items : List Document} → (∀ item ∈ items, item.Sound) →
    ∀ (levels : Nat), ∀ item ∈ limitedItems levels items, item.Sound
  | [], _, _ => List.forall_mem_nil _
  | _ :: _, each, levels =>
      List.forall_mem_cons.mpr ⟨(List.forall_mem_cons.mp each).1.limited levels,
        sound_limitedItems (List.forall_mem_cons.mp each).2 levels⟩

theorem sound_limitedMembers : {members : List (Option String × Document)} →
    (∀ entry ∈ members, entry.2.Sound) →
      ∀ (levels : Nat), ∀ entry ∈ limitedMembers levels members, entry.2.Sound
  | [], _, _ => List.forall_mem_nil _
  | (_, _) :: _, each, levels =>
      List.forall_mem_cons.mpr ⟨(List.forall_mem_cons.mp each).1.limited levels,
        sound_limitedMembers (List.forall_mem_cons.mp each).2 levels⟩

end

/-- However far a text can be read, the numbers read from it are sound. -/
theorem sound_ofSigns (text : List Text.Sign) : (ofSigns text).1.Sound :=
  (Json.Reader.sound_readDocument text).limited nestingLimit

end Document

theorem Json.sound_ofText? {text : String} {value : Json} (read : ofText? text = some value) :
    value.Sound := by
  have sound := Document.sound_ofSigns (Text.signs text)
  unfold ofText? at read
  split at read
  next document ended =>
    rw [ended] at sound
    exact sound.value read
  next => cases read

end StoreSchema
