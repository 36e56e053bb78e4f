import Mathlib.Data.List.Induction
import Mathlib.Tactic.Linarith
import Mathlib.Tactic.NormNum
import StoreSchema.Leaf.Geohash
import StoreSchema.Proofs.Number.Exactness

/-! # Cells of a geohash

The bits at even places of a geohash halve the longitudes, those at odd places the latitudes. After
halvings by a row of bits an interval is the one whose number the bits form, counted from its lower
end in steps of its size. All ends and middles that are met are fractions of small powers of two,
so that none of them is rounded.
-/

namespace StoreSchema.Geohash

/-! ## Every second bit -/

mutual

/-- The entries at the places 0, 2, 4 and so on. -/
def evens {α : Type} : List α → List α
  | [] => []
  | value :: rest => value :: odds rest

/-- The entries at the places 1, 3, 5 and so on. -/
def odds {α : Type} : List α → List α
  | [] => []
  | _ :: rest => evens rest

end

section

variable {α : Type}

theorem length_evens_odds (values : List α) :
    (evens values).length = (values.length + 1) / 2 ∧ (odds values).length = values.length / 2 := by
  induction values with
  | nil => simp [evens, odds]
  | cons value rest ih =>
      simp only [evens, odds, List.length_cons]
      omega

theorem evens_odds_append (front back : List α) :
    evens (front ++ back) =
        evens front ++ (if front.length % 2 = 0 then evens back else odds back) ∧
      odds (front ++ back) =
        odds front ++ (if front.length % 2 = 0 then odds back else evens back) := by
  induction front with
  | nil => exact ⟨rfl, rfl⟩
  | cons value rest ih =>
      obtain ⟨even, odd⟩ := ih
      rw [List.cons_append, evens, odds, evens, odds, even, odd, List.cons_append, List.length_cons]
      rcases Nat.mod_two_eq_zero_or_one rest.length with parity | parity
      · have next : (rest.length + 1) % 2 ≠ 0 := by omega
        simp [parity, next]
      · have next : (rest.length + 1) % 2 = 0 := by omega
        simp [parity, next]

theorem eq_of_evens_odds {one other : List α} (even : evens one = evens other)
    (odd : odds one = odds other) : one = other := by
  induction one generalizing other with
  | nil =>
      cases other with
      | nil => rfl
      | cons => cases even
  | cons value rest ih =>
      cases other with
      | nil => cases even
      | cons otherValue otherRest =>
          obtain ⟨rfl, later⟩ := List.cons.inj even
          rw [ih odd later]

end

/-! ## Numbers of bits -/

/-- The number that a row of bits forms, the highest first. -/
def number (bits : List Bool) : Nat :=
  bits.foldl (fun n bit => 2 * n + bit.toNat) 0

theorem number_concat (bits : List Bool) (bit : Bool) :
    number (bits ++ [bit]) = 2 * number bits + bit.toNat := by
  rw [number, List.foldl_append]
  rfl

theorem number_lt (bits : List Bool) : number bits < 2 ^ bits.length := by
  induction bits using List.reverseRecOn with
  | nil => exact Nat.one_pos
  | append_singleton bits bit ih =>
      have small := Bool.toNat_le bit
      rw [number_concat, List.length_append, List.length_singleton, pow_succ]
      omega

theorem number_inj {one other : List Bool} (lengths : one.length = other.length)
    (same : number one = number other) : one = other := by
  induction one using List.reverseRecOn generalizing other with
  | nil => exact (List.length_eq_zero_iff.mp lengths.symm).symm
  | append_singleton bits bit ih =>
      cases other using List.reverseRecOn with
      | nil => simp at lengths
      | append_singleton otherBits otherBit =>
          rw [number_concat, number_concat] at same
          have small := Bool.toNat_le bit
          have otherSmall := Bool.toNat_le otherBit
          have lasts : bit.toNat = otherBit.toNat := by omega
          have last : bit = otherBit := by
            cases bit <;> cases otherBit <;> first | rfl | cases lasts
          rw [ih (by simpa using lengths) (by omega), last]

/-! ## Intervals -/

namespace Range

/-- Halves an interval by a row of bits. -/
def narrow (range : Range) (bits : List Bool) : Range :=
  bits.foldl half range

theorem narrow_concat (range : Range) (bits : List Bool) (bit : Bool) :
    range.narrow (bits ++ [bit]) = (range.narrow bits).half bit := by
  rw [narrow, List.foldl_append]
  rfl

theorem narrow_append (range : Range) (front back : List Bool) :
    range.narrow (front ++ back) = (range.narrow front).narrow back :=
  List.foldl_append

theorem narrow_eq (range : Range) (bits : List Bool) :
    (range.narrow bits).low =
        range.low + (range.high - range.low) * number bits / 2 ^ bits.length ∧
      (range.narrow bits).high =
        range.low + (range.high - range.low) * (number bits + 1) / 2 ^ bits.length := by
  induction bits using List.reverseRecOn with
  | nil => simp [narrow, number]
  | append_singleton bits bit ih =>
      obtain ⟨low, high⟩ := ih
      rw [narrow_concat, number_concat, List.length_append, List.length_singleton]
      cases bit with
      | false =>
          simp only [half, Bool.false_eq_true, if_false, middle, low, high, Bool.toNat_false]
          push_cast
          constructor <;> field_simp <;> ring
      | true =>
          simp only [half, if_true, middle, low, high, Bool.toNat_true]
          push_cast
          constructor <;> field_simp <;> ring

theorem middle_narrow (range : Range) (bits : List Bool) :
    (range.narrow bits).middle =
      range.low + (range.high - range.low) * (2 * number bits + 1) / 2 ^ (bits.length + 1) := by
  obtain ⟨low, high⟩ := range.narrow_eq bits
  rw [middle, low, high]
  field_simp
  ring

theorem middle_narrow_inj {range : Range} (proper : range.low < range.high) {one other : List Bool}
    (lengths : one.length = other.length)
    (same : (range.narrow one).middle = (range.narrow other).middle) : one = other := by
  refine number_inj lengths ?_
  have size : range.high - range.low ≠ 0 := (sub_pos.mpr proper).ne'
  have steps : (2 : Rat) ^ (other.length + 1) ≠ 0 := pow_ne_zero _ two_ne_zero
  rw [middle_narrow, middle_narrow, lengths, add_right_inj, div_left_inj' steps,
    mul_right_inj' size] at same
  have numbers : ((number one : Nat) : Rat) = number other := by linarith
  exact_mod_cast numbers

theorem narrow_within {range : Range} (proper : range.low < range.high) (bits : List Bool) :
    range.low ≤ (range.narrow bits).low ∧ (range.narrow bits).low < (range.narrow bits).high ∧
      (range.narrow bits).high ≤ range.high := by
  induction bits using List.reverseRecOn with
  | nil => exact ⟨le_rfl, proper, le_rfl⟩
  | append_singleton bits bit ih =>
      obtain ⟨low, apart, high⟩ := ih
      rw [narrow_concat]
      cases bit <;> simp only [half, middle, if_true, Bool.false_eq_true, if_false] <;>
        refine ⟨?_, ?_, ?_⟩ <;> linarith

theorem middle_narrow_within {range : Range} (proper : range.low < range.high)
    (bits : List Bool) :
    range.low < (range.narrow bits).middle ∧ (range.narrow bits).middle < range.high := by
  obtain ⟨low, apart, high⟩ := narrow_within proper bits
  rw [middle]
  constructor <;> linarith

end Range

/-! ## Cells -/

/-- The intervals of a cell after halvings by a row of bits: the next one to be halved has had the
    bits at even places, if the row has an even number of them. -/
theorem foldl_halve (one other : Range) (bits : List Bool) :
    bits.foldl Cell.halve ⟨one, other⟩ =
      if bits.length % 2 = 0 then ⟨one.narrow (evens bits), other.narrow (odds bits)⟩
      else ⟨other.narrow (odds bits), one.narrow (evens bits)⟩ := by
  induction bits generalizing one other with
  | nil => simp [evens, odds, Range.narrow]
  | cons bit rest ih =>
      have first : (one.half bit).narrow (odds rest) = one.narrow (bit :: odds rest) := rfl
      rw [List.foldl_cons, Cell.halve, ih, evens, odds, List.length_cons, first]
      rcases Nat.mod_two_eq_zero_or_one rest.length with parity | parity
      · have next : (rest.length + 1) % 2 ≠ 0 := by omega
        rw [if_pos parity, if_neg next]
      · have next : (rest.length + 1) % 2 = 0 := by omega
        rw [if_neg (by omega), if_pos next]

/-- An interval around zero. -/
def around (width : Nat) : Range := ⟨-(width : Rat), width⟩

theorem around_proper {width : Nat} (wide : 0 < width) :
    (around width).low < (around width).high := by
  have positive : (0 : Rat) < width := Nat.cast_pos.mpr wide
  simp only [around]
  linarith

theorem size_around (width : Nat) : (around width).high - (around width).low = 2 * width := by
  simp only [around]
  ring

/-- The longitudes from west to east. -/
def longitudes : Range := around 180

/-- The latitudes from south to north. -/
def latitudes : Range := around 90

theorem extent_longitudes :
    longitudes.low = -180 ∧ longitudes.high - longitudes.low = 360 := by
  rw [longitudes, size_around]
  norm_num [around]

theorem extent_latitudes : latitudes.low = -90 ∧ latitudes.high - latitudes.low = 180 := by
  rw [latitudes, size_around]
  norm_num [around]

theorem longitudes_proper : longitudes.low < longitudes.high :=
  around_proper (by decide)

theorem latitudes_proper : latitudes.low < latitudes.high :=
  around_proper (by decide)

theorem globe_eq : globe = ⟨longitudes, latitudes⟩ := by
  simp [globe, longitudes, latitudes, around]

theorem centre_foldl_halve (bits : List Bool) :
    (bits.foldl Cell.halve globe).centre (bits.length % 2 = 0) =
      ((latitudes.narrow (odds bits)).middle, (longitudes.narrow (evens bits)).middle) := by
  rw [globe_eq, foldl_halve]
  by_cases parity : bits.length % 2 = 0 <;> simp [parity, Cell.centre]

/-! ## Symbols -/

/-- The five bits of the place of a symbol in the alphabet, the highest first. -/
def placeBits (c : Char) : List Bool :=
  (List.range 5).map fun place => (alphabet.idxOf c.toLower).testBit (4 - place)

/-- The bits of a row of symbols. -/
def path (hash : List Char) : List Bool :=
  hash.flatMap placeBits

theorem bits_eq (n : Nat) : bits n = (List.range 5).map fun place => n.testBit (4 - place) := by
  simp [bits, List.range, List.range.loop, Nat.testBit_eq_decide_div_mod_eq]

theorem length_placeBits (c : Char) : (placeBits c).length = 5 := by
  rw [placeBits, List.length_map, List.length_range]

theorem length_path (hash : List Char) : (path hash).length = 5 * hash.length := by
  induction hash with
  | nil => rfl
  | cons c rest ih =>
      rw [path, List.flatMap_cons, List.length_append, ← path, ih, length_placeBits,
        List.length_cons]
      omega

theorem path_append (front back : List Char) : path (front ++ back) = path front ++ path back :=
  List.flatMap_append

theorem value?_eq_some_iff {c : Char} {n : Nat} :
    value? c = some n ↔ c.toLower ∈ alphabet ∧ n = alphabet.idxOf c.toLower := by
  rw [value?, List.findIdx?_eq_some_iff_findIdx_eq, ← List.idxOf_lt_length_iff, List.idxOf]
  constructor
  · rintro ⟨inside, rfl⟩
    exact ⟨inside, rfl⟩
  · rintro ⟨inside, rfl⟩
    exact ⟨inside, rfl⟩

theorem allBits_eq_some_iff {hash : List Char} {bits : List Bool} :
    allBits hash = some bits ↔ (∀ c ∈ hash, c.toLower ∈ alphabet) ∧ bits = path hash := by
  induction hash generalizing bits with
  | nil => simp [allBits, path, eq_comm]
  | cons c rest ih =>
      have whole : path (c :: rest) = Geohash.bits (alphabet.idxOf c.toLower) ++ path rest := by
        rw [bits_eq]
        rfl
      simp only [allBits, Option.bind_eq_bind, Option.bind_eq_some_iff, value?_eq_some_iff, ih,
        List.forall_mem_cons, Option.pure_def, Option.some.injEq, whole]
      constructor
      · rintro ⟨n, ⟨here, rfl⟩, others, ⟨later, rfl⟩, rfl⟩
        exact ⟨⟨here, later⟩, rfl⟩
      · rintro ⟨⟨here, later⟩, rfl⟩
        exact ⟨_, ⟨here, rfl⟩, _, ⟨later, rfl⟩, rfl⟩

theorem centre?_eq_some_iff {hash : List Char} {place : Rat × Rat} :
    centre? hash = some place ↔
      hash ≠ [] ∧ hash.length ≤ 12 ∧ (∀ c ∈ hash, c.toLower ∈ alphabet) ∧
        place = ((latitudes.narrow (odds (path hash))).middle,
          (longitudes.narrow (evens (path hash))).middle) := by
  unfold centre?
  by_cases outside : hash = [] ∨ greatestLength < hash.length
  · rw [if_pos (by simpa using outside)]
    constructor
    · intro none
      cases none
    · rintro ⟨nonempty, short, -⟩
      exact absurd outside (not_or.mpr ⟨nonempty, Nat.not_lt.mpr short⟩)
  · rw [if_neg (by simpa using outside)]
    obtain ⟨nonempty, short⟩ := not_or.mp outside
    simp only [Option.map_eq_some_iff, allBits_eq_some_iff]
    constructor
    · rintro ⟨bits, ⟨symbols, rfl⟩, rfl⟩
      exact ⟨nonempty, Nat.not_lt.mp short, symbols, centre_foldl_halve (path hash)⟩
    · rintro ⟨-, -, symbols, rfl⟩
      exact ⟨_, ⟨symbols, rfl⟩, centre_foldl_halve (path hash)⟩

theorem number_placeBits {c : Char} (inside : c.toLower ∈ alphabet) :
    number (placeBits c) = alphabet.idxOf c.toLower := by
  have each : ∀ n < 32,
      number ((List.range 5).map fun place => n.testBit (4 - place)) = n := by decide
  exact each _ (List.idxOf_lt_length_iff.mpr inside)

theorem toLower_eq_of_path {one other : List Char} (inside : ∀ c ∈ one, c.toLower ∈ alphabet)
    (otherInside : ∀ c ∈ other, c.toLower ∈ alphabet) (same : path one = path other) :
    one.map Char.toLower = other.map Char.toLower := by
  induction one generalizing other with
  | nil =>
      have lengths := congrArg List.length same
      rw [length_path, length_path, List.length_nil] at lengths
      rw [List.length_eq_zero_iff.mp (by omega : other.length = 0)]
  | cons c rest ih =>
      cases other with
      | nil =>
          have lengths := congrArg List.length same
          rw [length_path, length_path, List.length_cons, List.length_nil] at lengths
          omega
      | cons d more =>
          obtain ⟨here, later⟩ := List.forall_mem_cons.mp inside
          obtain ⟨otherHere, otherLater⟩ := List.forall_mem_cons.mp otherInside
          have lengths : (placeBits c).length = (placeBits d).length := by
            rw [length_placeBits, length_placeBits]
          obtain ⟨first, others⟩ := List.append_inj same lengths
          have place := congrArg number first
          rw [number_placeBits here, number_placeBits otherHere] at place
          rw [List.map_cons, List.map_cons, (List.idxOf_inj here).mp place,
            ih later otherLater others]

/-! ## Exact numbers -/

/-- The ends and middles of an interval that was halved no more than thirty times are doubles. -/
theorem exact_step {width : Nat} (steps count : Nat) (narrow : width ≤ 180)
    (among : steps ≤ 2 ^ count) (few : count ≤ 31) :
    Binary64.Exact (-(width : Rat) + 2 * width * steps / 2 ^ count) := by
  have power : (2 : Nat) ^ count ≤ 2 ^ 31 := Nat.pow_le_pow_right Nat.two_pos few
  have bound : width * 2 ^ count ≤ 180 * 2 ^ 31 := Nat.mul_le_mul narrow power
  have size : width * steps ≤ width * 2 ^ count := Nat.mul_le_mul_left width among
  have fraction : (-(width : Rat) + 2 * width * steps / 2 ^ count) =
      ((2 * (width * steps : Nat) - (width * 2 ^ count : Nat) : Int) : Rat) / 2 ^ count := by
    push_cast
    field_simp
    ring
  rw [fraction]
  exact Binary64.exact_of_dyadic (by omega) (by omega)

/-- An interval whose ends and middle are doubles. -/
structure Range.Kept (range : Range) : Prop where
  low : Binary64.Exact range.low
  high : Binary64.Exact range.high
  middle : Binary64.Exact range.middle

theorem kept_narrow {width : Nat} (narrow : width ≤ 180) {bits : List Bool}
    (few : bits.length ≤ 30) : ((around width).narrow bits).Kept := by
  have below := number_lt bits
  obtain ⟨low, high⟩ := (around width).narrow_eq bits
  have middle := (around width).middle_narrow bits
  rw [size_around] at low high middle
  refine ⟨?_, ?_, ?_⟩
  · have kept := exact_step (number bits) bits.length narrow below.le (by omega)
    rwa [low]
  · have kept := exact_step (number bits + 1) bits.length narrow below (by omega)
    rw [high]
    exact_mod_cast kept
  · have kept := exact_step (2 * number bits + 1) (bits.length + 1) narrow
      (by rw [pow_succ]; omega) (by omega)
    rw [middle]
    exact_mod_cast kept

end StoreSchema.Geohash
