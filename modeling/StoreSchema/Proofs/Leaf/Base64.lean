import Mathlib.Data.List.Basic
import StoreSchema.Leaf.Base64
import StoreSchema.Proofs.Outcome

/-! # Base 64 both ways

A row of symbols spells numbers below 64 in groups of four, and a last group may hold two or three
of them and pads. Reading accepts the rows that spell numbers, and no others; writing gives the row
that spells the numbers of the bytes. Since a last group holds nothing beyond its bytes, what is
read is written again symbol by symbol.
-/

namespace StoreSchema.Base64

/-! ## Symbols -/

theorem value?_symbol {n : Nat} (small : n < 64) : value? (symbol n) = some n := by
  have each : ∀ n < 64, value? (symbol n) = some n := by decide +kernel
  exact each n small

theorem eq_symbol_of_value? {b : UInt8} {n : Nat} (read : value? b = some n) :
    n < 64 ∧ b = symbol n := by
  have each : ∀ code < 256, ∀ n ∈ value? (UInt8.ofNat code),
      n < 64 ∧ UInt8.ofNat code = symbol n := by decide +kernel
  have here := each b.toNat (UInt8.toNat_lt b)
  rw [UInt8.ofNat_toNat] at here
  exact here n read

theorem symbol_ne_pad {n : Nat} (small : n < 64) : symbol n ≠ pad := by
  have each : ∀ n < 64, symbol n ≠ pad := by decide +kernel
  exact each n small

theorem symbol_lt (n : Nat) : (symbol n).toNat < 0x80 := by
  by_cases small : n < 64
  · have each : ∀ n < 64, (symbol n).toNat < 0x80 := by decide +kernel
    exact each n small
  · have last : symbol n = 0x2f := by
      unfold symbol
      rw [if_neg (by omega), if_neg (by omega), if_neg (by omega), if_neg (by omega)]
    rw [last]
    decide

/-! ## Rows of symbols -/

/-- A row of symbols spells numbers: each group of four symbols four of them, and a last group with
    pads two or three, the last of which holds nothing beyond its byte. -/
inductive Spells : List Nat → List UInt8 → Prop where
  | nil : Spells [] []
  | two {a b : Nat} (first : a < 64) (second : b < 64) (trailing : b % 16 = 0) :
      Spells [a, b] [symbol a, symbol b, pad, pad]
  | three {a b c : Nat} (first : a < 64) (second : b < 64) (third : c < 64) (trailing : c % 4 = 0) :
      Spells [a, b, c] [symbol a, symbol b, symbol c, pad]
  | four {a b c d : Nat} {ns : List Nat} {symbols : List UInt8} (first : a < 64) (second : b < 64)
      (third : c < 64) (fourth : d < 64) (rest : Spells ns symbols) :
      Spells (a :: b :: c :: d :: ns) (symbol a :: symbol b :: symbol c :: symbol d :: symbols)

namespace Spells

variable {ns : List Nat} {symbols : List UInt8}

theorem ascii (spells : Spells ns symbols) : ∀ b ∈ symbols, b.toNat < 0x80 := by
  have pads : pad.toNat < 0x80 := by decide
  induction spells with
  | nil => simp
  | two | three => simp [symbol_lt, pads]
  | four _ _ _ _ _ ih => simpa [symbol_lt] using ih

theorem encode_bytes (spells : Spells ns symbols) : encode (bytes ns) = symbols := by
  induction spells with
  | nil => rfl
  | @two a b first second trailing =>
      have one : (a * 4 + b / 16) % 256 / 4 = a := by omega
      have two : (a * 4 + b / 16) % 256 % 4 * 16 = b := by omega
      simp only [bytes, encode, UInt8.toNat_ofNat', Nat.reducePow, one, two]
  | @three a b c first second third trailing =>
      have one : (a * 4 + b / 16) % 256 / 4 = a := by omega
      have two : (a * 4 + b / 16) % 256 % 4 * 16 + (b % 16 * 16 + c / 4) % 256 / 16 = b := by omega
      have three : (b % 16 * 16 + c / 4) % 256 % 16 * 4 = c := by omega
      simp only [bytes, encode, UInt8.toNat_ofNat', Nat.reducePow, one, two, three]
  | @four a b c d ns symbols first second third fourth _ ih =>
      have one : (a * 4 + b / 16) % 256 / 4 = a := by omega
      have two : (a * 4 + b / 16) % 256 % 4 * 16 + (b % 16 * 16 + c / 4) % 256 / 16 = b := by omega
      have three : (b % 16 * 16 + c / 4) % 256 % 16 * 4 + (c % 4 * 64 + d) % 256 / 64 = c := by
        omega
      have four : (c % 4 * 64 + d) % 256 % 64 = d := by omega
      simp only [bytes, encode, UInt8.toNat_ofNat', Nat.reducePow, one, two, three, four, ih]

end Spells

theorem exists_spells (row : List UInt8) : ∃ ns, Spells ns (encode row) ∧ bytes ns = row := by
  fun_induction encode row with
  | case1 => exact ⟨[], .nil, rfl⟩
  | case2 a =>
      have below := UInt8.toNat_lt a
      have one : a.toNat / 4 * 4 + a.toNat % 4 * 16 / 16 = a.toNat := by omega
      refine ⟨_, .two (by omega) (by omega) (by omega), ?_⟩
      simp only [bytes, one, UInt8.ofNat_toNat]
  | case3 a b =>
      have below := UInt8.toNat_lt a
      have belowSecond := UInt8.toNat_lt b
      have one : a.toNat / 4 * 4 + (a.toNat % 4 * 16 + b.toNat / 16) / 16 = a.toNat := by omega
      have two : (a.toNat % 4 * 16 + b.toNat / 16) % 16 * 16 + b.toNat % 16 * 4 / 4 = b.toNat := by
        omega
      refine ⟨_, .three (by omega) (by omega) (by omega) (by omega), ?_⟩
      simp only [bytes, one, two, UInt8.ofNat_toNat]
  | case4 a b c rest ih =>
      obtain ⟨ns, spells, same⟩ := ih
      have below := UInt8.toNat_lt a
      have belowSecond := UInt8.toNat_lt b
      have belowThird := UInt8.toNat_lt c
      have one : a.toNat / 4 * 4 + (a.toNat % 4 * 16 + b.toNat / 16) / 16 = a.toNat := by omega
      have two : (a.toNat % 4 * 16 + b.toNat / 16) % 16 * 16 +
          (b.toNat % 16 * 4 + c.toNat / 64) / 4 = b.toNat := by omega
      have three : (b.toNat % 16 * 4 + c.toNat / 64) % 4 * 64 + c.toNat % 64 = c.toNat := by omega
      refine ⟨_, .four (by omega) (by omega) (by omega) (by omega) spells, ?_⟩
      simp only [bytes, one, two, three, same, UInt8.ofNat_toNat]

/-! ## Reading -/

theorem values_map {ns : List Nat} (small : ∀ n ∈ ns, n < 64) (offset : Nat) :
    values offset (ns.map symbol) = .ok ns := by
  induction ns generalizing offset with
  | nil => rfl
  | cons n rest ih =>
      obtain ⟨here, later⟩ := List.forall_mem_cons.mp small
      rw [List.map_cons, values, value?_symbol here, ih later]
      rfl

theorem of_values {offset : Nat} {symbols : List UInt8} {ns : List Nat}
    (read : values offset symbols = .ok ns) : (∀ n ∈ ns, n < 64) ∧ symbols = ns.map symbol := by
  induction symbols generalizing offset ns with
  | nil =>
      cases read
      simp
  | cons b rest ih =>
      rw [values] at read
      split at read
      next => cases read
      next n found =>
        obtain ⟨others, later, done⟩ := Outcome.bind_eq_ok.mp read
        cases done
        obtain ⟨small, rfl⟩ := eq_symbol_of_value? found
        obtain ⟨smalls, rfl⟩ := ih later
        exact ⟨List.forall_mem_cons.mpr ⟨small, smalls⟩, rfl⟩

theorem lastValues_map (ns : List Nat) (small : ∀ n ∈ ns, n < 64) (offset index pads : Nat)
    (behind : 0 < pads → 2 ≤ index + ns.length) :
    lastValues offset index (ns.map symbol ++ List.replicate pads pad) = .ok ns := by
  induction ns generalizing index with
  | nil =>
      cases pads with
      | zero => rfl
      | succ more =>
          have placed : ¬ index < 2 := Nat.not_lt.mpr (behind (Nat.zero_lt_succ more))
          simp [List.replicate_succ, lastValues, placed]
  | cons n rest ih =>
      obtain ⟨here, later⟩ := List.forall_mem_cons.mp small
      have behindRest : 0 < pads → 2 ≤ index + 1 + rest.length := by
        intro some
        have := behind some
        rw [List.length_cons] at this
        omega
      rw [List.map_cons, List.cons_append, lastValues, if_neg (symbol_ne_pad here),
        value?_symbol here, ih later (index + 1) behindRest]
      rfl

theorem of_lastValues {offset index : Nat} {group : List UInt8} {ns : List Nat}
    (read : lastValues offset index group = .ok ns) :
    (∀ n ∈ ns, n < 64) ∧ ∃ pads, group = ns.map symbol ++ List.replicate pads pad := by
  induction group generalizing index ns with
  | nil =>
      cases read
      exact ⟨by simp, 0, rfl⟩
  | cons b rest ih =>
      rw [lastValues] at read
      split at read
      next padded =>
        split at read
        next => cases read
        next placed =>
          cases read
          simp only [Bool.or_eq_true, decide_eq_true_eq, not_or, List.any_eq_true, not_exists,
            not_and, not_not] at placed
          refine ⟨by simp, rest.length + 1, ?_⟩
          rw [padded, List.map_nil, List.nil_append, List.replicate_succ]
          exact congrArg (pad :: ·) (List.eq_replicate_iff.mpr ⟨rfl, placed.2⟩)
      next =>
        split at read
        next => cases read
        next n found =>
          obtain ⟨others, later, done⟩ := Outcome.bind_eq_ok.mp read
          cases done
          obtain ⟨small, rfl⟩ := eq_symbol_of_value? found
          obtain ⟨smalls, pads, rfl⟩ := ih later
          exact ⟨List.forall_mem_cons.mpr ⟨small, smalls⟩, pads, rfl⟩

theorem decodeLast_eq_ok {offset : Nat} {group : List UInt8} {ns : List Nat}
    (full : group.length = 4) :
    decodeLast offset group = .ok ns ↔
      lastValues offset 0 group = .ok ns ∧ 2 ≤ ns.length ∧ isExact ns := by
  have some : group.isEmpty = false := by
    cases group with
    | nil => cases full
    | cons => rfl
  unfold decodeLast
  rw [Outcome.bind_eq_ok]
  constructor
  · rintro ⟨read, found, done⟩
    simp only [some, full, Bool.not_false, Bool.true_and, decide_eq_true_eq] at done
    split at done
    next => cases done
    next long =>
      split at done
      next uneven => exact absurd rfl uneven
      next =>
        split at done
        next trailing =>
          cases done
          exact ⟨found, Nat.not_lt.mp long, trailing⟩
        next => cases done
  · rintro ⟨found, long, trailing⟩
    refine ⟨ns, found, ?_⟩
    have notShort : ¬ ns.length < 2 := Nat.not_lt.mpr long
    simp [some, full, notShort, trailing, pure, Except.pure]

/-- A last group of four symbols is accepted just where it spells numbers. -/
theorem decodeLast_iff_spells {offset : Nat} {group : List UInt8} {ns : List Nat}
    (full : group.length = 4) : decodeLast offset group = .ok ns ↔ Spells ns group := by
  rw [decodeLast_eq_ok full]
  constructor
  · rintro ⟨read, long, trailing⟩
    obtain ⟨small, pads, rfl⟩ := of_lastValues read
    rw [List.length_append, List.length_map, List.length_replicate] at full
    obtain rfl : pads = 4 - ns.length := by omega
    match ns, small, long, trailing, full with
    | [a, b], small, _, trailing, _ =>
        simp only [List.forall_mem_cons] at small
        exact .two small.1 small.2.1 (of_decide_eq_true trailing)
    | [a, b, c], small, _, trailing, _ =>
        simp only [List.forall_mem_cons] at small
        exact .three small.1 small.2.1 small.2.2.1 (of_decide_eq_true trailing)
    | [a, b, c, d], small, _, _, _ =>
        simp only [List.forall_mem_cons] at small
        exact .four small.1 small.2.1 small.2.2.1 small.2.2.2.1 .nil
    | _ :: _ :: _ :: _ :: _ :: _, _, _, _, full =>
        simp only [List.length_cons] at full
        omega
  · intro spells
    cases spells with
    | nil => cases full
    | @two a b first second trailing =>
        refine ⟨lastValues_map [a, b] ?_ offset 0 2 (by simp), Nat.le_refl 2,
          decide_eq_true trailing⟩
        simp [first, second]
    | @three a b c first second third trailing =>
        refine ⟨lastValues_map [a, b, c] ?_ offset 0 1 (by simp), by simp,
          decide_eq_true trailing⟩
        simp [first, second, third]
    | @four a b c d ns symbols first second third fourth rest =>
        have none : symbols = [] := by simpa using full
        subst none
        cases rest
        refine ⟨lastValues_map [a, b, c, d] ?_ offset 0 0 (by simp), by simp, rfl⟩
        simp [first, second, third, fourth]

theorem spells_append {ns last : List Nat} {group : List UInt8} (small : ∀ n ∈ ns, n < 64)
    (whole : ns.length % 4 = 0) (spells : Spells last group) :
    Spells (ns ++ last) (ns.map symbol ++ group) := by
  match ns, small, whole with
  | [], _, _ => exact spells
  | [_], _, whole | [_, _], _, whole | [_, _, _], _, whole => cases whole
  | a :: b :: c :: d :: rest, small, whole =>
      simp only [List.forall_mem_cons] at small
      have wholeRest : rest.length % 4 = 0 := by
        simp only [List.length_cons] at whole
        omega
      have later := spells_append small.2.2.2.2 wholeRest spells
      exact .four small.1 small.2.1 small.2.2.1 small.2.2.2.1 later

theorem Spells.split {ns : List Nat} {symbols : List UInt8} (spells : Spells ns symbols) :
    symbols = [] ∧ ns = [] ∨ ∃ front last group, (∀ n ∈ front, n < 64) ∧ front.length % 4 = 0 ∧
      group.length = 4 ∧ Spells last group ∧ ns = front ++ last ∧
        symbols = front.map symbol ++ group := by
  induction spells with
  | nil => exact .inl ⟨rfl, rfl⟩
  | two first second trailing =>
      exact .inr ⟨[], _, _, by simp, rfl, rfl, .two first second trailing, rfl, rfl⟩
  | three first second third trailing =>
      exact .inr ⟨[], _, _, by simp, rfl, rfl, .three first second third trailing, rfl, rfl⟩
  | @four a b c d _ _ first second third fourth _ ih =>
      rcases ih with ⟨rfl, rfl⟩ | ⟨front, last, group, small, whole, full, spells, rfl, rfl⟩
      · exact .inr ⟨[], _, _, by simp, rfl, rfl, .four first second third fourth .nil, rfl, rfl⟩
      · refine .inr ⟨a :: b :: c :: d :: front, last, group, ?_, ?_, full, spells, rfl, rfl⟩
        · simpa [first, second, third, fourth] using small
        · simp only [List.length_cons]
          omega

theorem decode_append {front group : List UInt8} (whole : front.length % 4 = 0)
    (full : group.length = 4) :
    decode (front ++ group) = (values 0 front >>= fun first =>
      decodeLast front.length group >>= fun last => pure (bytes (first ++ last))) := by
  have length : (front ++ group).length = front.length + 4 := by rw [List.length_append, full]
  have notStray : stray? (front ++ group) = none := if_neg (by omega)
  have size : lastSize (front.length + 4) = 4 := by
    rw [lastSize, if_pos (by omega)]
    omega
  rw [decode, notStray]
  simp only [length, size, Nat.add_sub_cancel, List.take_left, List.drop_left]

theorem length_mod_of_decode {symbols row : List UInt8} (read : decode symbols = .ok row) :
    symbols.length % 4 = 0 := by
  by_contra uneven
  unfold decode at read
  split at read
  next => cases read
  next =>
    obtain ⟨_, _, later⟩ := Outcome.bind_eq_ok.mp read
    obtain ⟨ns, last, -⟩ := Outcome.bind_eq_ok.mp later
    have size : lastSize symbols.length = symbols.length % 4 := if_neg uneven
    have short : (symbols.drop (symbols.length - lastSize symbols.length)).length % 4 ≠ 0 := by
      rw [List.length_drop, size]
      omega
    obtain ⟨_, _, done⟩ := Outcome.bind_eq_ok.mp last
    rw [if_pos short] at done
    split at done <;> cases done

/-- The rows that are read are those that spell numbers, and the bytes of the numbers are read. -/
theorem decode_eq_ok_iff {symbols row : List UInt8} :
    decode symbols = .ok row ↔ ∃ ns, Spells ns symbols ∧ bytes ns = row := by
  constructor
  · intro read
    have whole := length_mod_of_decode read
    by_cases empty : symbols = []
    · subst empty
      exact ⟨[], .nil, Except.ok.inj read⟩
    have some : 0 < symbols.length := List.length_pos_iff.mpr empty
    obtain ⟨front, group, rfl, full⟩ : ∃ front group, symbols = front ++ group ∧ group.length = 4 :=
      ⟨symbols.take (symbols.length - 4), symbols.drop (symbols.length - 4),
        (List.take_append_drop _ _).symm, by rw [List.length_drop]; omega⟩
    rw [List.length_append, full, Nat.add_mod_right] at whole
    rw [decode_append whole full] at read
    obtain ⟨first, firstRead, later⟩ := Outcome.bind_eq_ok.mp read
    obtain ⟨last, lastRead, done⟩ := Outcome.bind_eq_ok.mp later
    obtain ⟨small, rfl⟩ := of_values firstRead
    rw [List.length_map] at whole
    have spells := (decodeLast_iff_spells full).mp lastRead
    exact ⟨first ++ last, spells_append small whole spells, Outcome.pure_eq_ok.mp done⟩
  · rintro ⟨ns, spells, rfl⟩
    rcases spells.split with ⟨rfl, rfl⟩ | ⟨front, last, group, small, whole, full, ends, rfl, rfl⟩
    · rfl
    rw [decode_append (by rwa [List.length_map]) full, values_map small]
    simp only [Outcome.ok_bind, (decodeLast_iff_spells full).mpr ends]
    rfl

/-! ## Both ways -/

theorem decode_encoded (row : List UInt8) : decode (encode row) = .ok row :=
  decode_eq_ok_iff.mpr (exists_spells row)

theorem decode_eq_ok_iff_encode {symbols row : List UInt8} :
    decode symbols = .ok row ↔ encode row = symbols := by
  constructor
  · intro read
    obtain ⟨ns, spells, rfl⟩ := decode_eq_ok_iff.mp read
    exact spells.encode_bytes
  · rintro rfl
    exact decode_encoded row

end StoreSchema.Base64
