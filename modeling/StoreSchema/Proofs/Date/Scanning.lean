import Mathlib.Data.List.TakeWhile
import StoreSchema.Date.Print
import StoreSchema.Date.Scan
import StoreSchema.Proofs.Date.Moments
import StoreSchema.Proofs.Outcome
import StoreSchema.Proofs.Text.Decimal

/-! # Taking off what was written

What an item wrote at the front of a text is taken off again, and what follows stays. Where the
written form has no length of its own, what follows must not go on with a digit.
-/

namespace StoreSchema

namespace Text

theorem not_isBlank_of_isDigit {c : Char} (digit : c.isDigit) : isBlank c = false := by
  rw [isDigit_iff] at digit
  simp only [isBlank, Bool.or_eq_false_iff, Bool.and_eq_false_iff, decide_eq_false_iff_not,
    beq_eq_false_iff_ne, ne_eq]
  omega

theorem trimStart_cons {c : Char} (shown : isBlank c = false) (rest : List Char) :
    trimStart (c :: rest) = c :: rest := by
  simp [trimStart, shown]

theorem length_le_byteSize (text : List Char) : text.length ≤ byteSize text := by
  induction text with
  | nil => rfl
  | cons c rest ih =>
      have wide := c.utf8Size_pos
      simp only [List.length_cons, byteSize]
      omega

theorem byteSize_append (left right : List Char) :
    byteSize (left ++ right) = byteSize left + byteSize right := by
  induction left with
  | nil => simp [byteSize]
  | cons c rest ih =>
      simp only [List.cons_append, byteSize, ih]
      omega

theorem padded_two {n : Nat} (small : n < 100) :
    padded 2 n = [digitChar (n / 10), digitChar (n % 10)] := by
  have each : ∀ n < 100, padded 2 n = [digitChar (n / 10), digitChar (n % 10)] := by
    decide +kernel
  exact each n small

end Text

namespace Date

/-- A text does not begin with a digit. -/
def Ends (text : List Char) : Prop :=
  ∀ c rest, text = c :: rest → c.isDigit = false

theorem takeWhile_digits {digits rest : List Char} (all : ∀ c ∈ digits, c.isDigit)
    (ends : Ends rest) : (digits ++ rest).takeWhile Char.isDigit = digits := by
  have stop : rest.takeWhile Char.isDigit = [] := by
    cases rest with
    | nil => rfl
    | cons c others => simp [ends c others rfl]
  have whole : digits.takeWhile Char.isDigit = digits := List.takeWhile_eq_self_iff.mpr all
  rw [List.takeWhile_append, whole, stop]
  simp

theorem Ends.take {rest : List Char} (ends : Ends rest) (count : Nat) : Ends (rest.take count) := by
  intro c others same
  cases rest with
  | nil => simp at same
  | cons d more =>
      cases count with
      | zero => simp at same
      | succ count =>
          rw [List.take_succ_cons, List.cons.injEq] at same
          exact same.1 ▸ ends d more rfl

theorem Ends.nil : Ends [] := by
  intro c rest same
  cases same

namespace Scan

/-- Digits are taken off as a number, if there are as many as can be, or no more follow. -/
theorem number_append {digits rest : List Char} {most : Nat} (all : ∀ c ∈ digits, c.isDigit)
    (nonempty : digits ≠ []) (fits : digits.length ≤ most)
    (ends : digits.length = most ∨ Ends rest) (narrow : most ≤ 9) :
    number (some most) (digits ++ rest) = .ok (Text.ofDigits digits, rest) := by
  have taken : ((digits ++ rest).take most).takeWhile Char.isDigit = digits := by
    rw [List.take_append, List.take_of_length_le fits]
    refine takeWhile_digits all ?_
    cases ends with
    | inl full =>
        rw [full, Nat.sub_self, List.take_zero]
        exact .nil
    | inr ends => exact ends.take _
  have held : ¬ Number.greatestInt < (Text.ofDigits digits : Int) := by
    have bound : Text.ofDigits digits < 10 ^ 9 :=
      (Text.ofDigits_lt all).trans_le (Nat.pow_le_pow_right (by omega) (by omega))
    have wide : (10 ^ 9 : Int) ≤ Number.greatestInt := by decide
    omega
  have present : (digits ++ rest).isEmpty = false := by
    cases digits with
    | nil => exact absurd rfl nonempty
    | cons c others => rfl
  have digitsPresent : digits.isEmpty = false := by simpa using nonempty
  simp only [number, taken, present, digitsPresent, held, Bool.false_eq_true, if_false,
    List.drop_left]

theorem literal_append (expected rest : List Char) :
    literal expected (expected ++ rest) = .ok rest := by
  have enough : ¬ Text.byteSize (expected ++ rest) < Text.byteSize expected := by
    rw [Text.byteSize_append]
    omega
  simp [literal, need, enough, bind, Except.bind]

theorem fixedNumber_append {digits : List Char} (all : ∀ c ∈ digits, c.isDigit)
    (rest : List Char) :
    fixedNumber digits.length (digits ++ rest) = .ok (Text.ofDigits digits, rest) := by
  have enough : ¬ Text.byteSize (digits ++ rest) < digits.length := by
    have size := Text.length_le_byteSize (digits ++ rest)
    rw [List.length_append] at size
    omega
  have each : digits.all Char.isDigit := List.all_eq_true.mpr all
  simp [fixedNumber, need, enough, each, bind, Except.bind, pure, Except.pure]

end Scan

/-! ## Numbers -/

theorem NumberPart.value_lt (part : NumberPart) {time : Moment.Local} (valid : time.Valid) :
    (part.value time).2 < 10 ^ (part.value time).1 := by
  have year := valid.year
  have month := valid.month
  have day := valid.day
  have ordinal := valid.ordinal
  have hour := valid.hour
  have minute := valid.minute
  have second := valid.second
  cases part with
  | halfDayHour =>
      simp only [NumberPart.value]
      split <;> omega
  | year | yearOfCentury | month | day | ordinal | hour | minute | second =>
      simp only [NumberPart.value]
      omega

theorem isDigit_of_mem_numberChars {padded : Bool} {width n : Nat} {c : Char}
    (inside : c ∈ numberChars padded width n) : c.isDigit := by
  unfold numberChars at inside
  split at inside
  next => exact Text.isDigit_of_mem_padded inside
  next => exact Text.isDigit_of_mem_digits inside

theorem numberChars_ne_nil (padded : Bool) (width n : Nat) : numberChars padded width n ≠ [] := by
  have digits := Text.digits_ne_nil n
  unfold numberChars Text.padded
  split <;> simp [digits]

theorem scan_number {padded : Bool} {width n : Nat} {rest : List Char} (positive : 0 < width)
    (narrow : width ≤ 9) (bound : n < 10 ^ width) (ends : padded ∨ Ends rest) :
    Scan.number (some width) (numberChars padded width n ++ rest) = .ok ((n : Int), rest) := by
  have denotes : Text.ofDigits (numberChars padded width n) = n := by
    unfold numberChars
    split
    · exact Text.ofDigits_padded width n
    · exact Text.ofDigits_digits n
  have fits : (numberChars padded width n).length ≤ width := by
    unfold numberChars
    split
    · exact (Text.length_padded positive bound).le
    · exact Text.length_digits_le positive bound
  have stops : (numberChars padded width n).length = width ∨ Ends rest := by
    cases ends with
    | inl full => exact .inl (by rw [numberChars, if_pos full, Text.length_padded positive bound])
    | inr ends => exact .inr ends
  have taken := Scan.number_append (fun c inside => isDigit_of_mem_numberChars inside)
    (numberChars_ne_nil padded width n) fits stops narrow
  rw [taken, denotes]

theorem Scan.year_of_digit {c : Char} (digit : c.isDigit) (rest : List Char) :
    Scan.year (c :: rest) = Scan.number (some 4) (c :: rest) := by
  unfold Scan.year
  split
  next same =>
    cases same
    cases digit
  next same =>
    cases same
    cases digit
  next => rfl

theorem NumberPart.scan_print (part : NumberPart) (padded : Bool) {time : Moment.Local}
    (valid : time.Valid) {rest : List Char} (ends : padded ∨ Ends rest) :
    part.scan (Text.trimStart
      (numberChars padded (part.value time).1 (part.value time).2 ++ rest)) =
      .ok (((part.value time).2 : Int), rest) := by
  have width : 0 < (part.value time).1 ∧ (part.value time).1 ≤ 9 := by
    cases part <;> simp [NumberPart.value]
  have taken := scan_number width.1 width.2 (part.value_lt valid) ends
  have digits : ∀ c ∈ numberChars padded (part.value time).1 (part.value time).2, c.isDigit :=
    fun c inside => isDigit_of_mem_numberChars inside
  cases written : numberChars padded (part.value time).1 (part.value time).2 with
  | nil => exact absurd written (numberChars_ne_nil _ _ _)
  | cons c others =>
      have digit : c.isDigit := digits c (written ▸ List.mem_cons_self)
      rw [written, List.cons_append] at taken
      rw [List.cons_append, Text.trimStart_cons (Text.not_isBlank_of_isDigit digit)]
      cases part with
      | year =>
          rw [NumberPart.scan, Scan.year_of_digit digit]
          exact taken
      | yearOfCentury | month | day | ordinal | hour | halfDayHour | minute | second => exact taken

/-! ## Fractions and offsets -/

theorem Scan.fraction_append {digits rest : List Char} (all : ∀ c ∈ digits, c.isDigit)
    (nonempty : digits ≠ []) (fits : digits.length ≤ 9) (ends : Ends rest) :
    Scan.fraction (digits ++ rest) =
      .ok ((Text.ofDigits digits * 10 ^ (9 - digits.length) : Nat), rest) := by
  have number := Scan.number_append all nonempty fits (.inr ends) (Nat.le_refl 9)
  have count : ((digits ++ rest).take 9).takeWhile Char.isDigit = digits := by
    rw [List.take_append, List.take_of_length_le fits]
    exact takeWhile_digits all (ends.take _)
  have stays : rest.dropWhile Char.isDigit = rest := by
    cases rest with
    | nil => rfl
    | cons c others => simp [ends c others rfl]
  rw [Scan.fraction, number, Outcome.ok_bind, count]
  simp [stays, pure, Except.pure]

theorem fractionChars_cases (nanos : Nat) :
    Moment.fractionChars nanos = [] ∨
      ∃ width n, Moment.fractionChars nanos = '.' :: Text.padded width n := by
  unfold Moment.fractionChars
  split
  next => exact .inl rfl
  next =>
    split
    next => exact .inr ⟨3, _, rfl⟩
    next =>
      split
      next => exact .inr ⟨6, _, rfl⟩
      next => exact .inr ⟨9, _, rfl⟩

theorem fraction_print {nanos : Nat} (bound : nanos < 1000000000) {rest : List Char}
    (ends : Ends rest) (noPoint : ∀ others, rest ≠ '.' :: others) (parts : Parts) :
    Item.scan parts (Moment.fractionChars nanos ++ rest) .fraction =
      if nanos = 0 then .ok (parts, rest)
      else (parts.setNanos nanos).map (·, rest) := by
  have written : ∀ width n, 0 < width → width ≤ 9 → n < 10 ^ width → n * 10 ^ (9 - width) = nanos →
      Item.scan parts ('.' :: Text.padded width n ++ rest) .fraction =
        (parts.setNanos nanos).map (·, rest) := by
    intro width n positive narrow small same
    have length := Text.length_padded positive small
    have nonempty : Text.padded width n ≠ [] := List.ne_nil_of_length_pos (by omega)
    have taken := Scan.fraction_append (fun c inside => Text.isDigit_of_mem_padded inside) nonempty
      (by omega) ends
    rw [Text.ofDigits_padded, length, same] at taken
    rw [List.cons_append, Item.scan, taken, Outcome.ok_bind]
    simp only
    cases parts.setNanos nanos with
    | error misread => rfl
    | ok after => rfl
  unfold Moment.fractionChars
  split
  next zero =>
    rw [List.nil_append, Item.scan]
    exact noPoint
  next =>
    split
    next millis => exact written 3 _ (by omega) (by omega) (by omega) (by omega)
    next =>
      split
      next micros => exact written 6 _ (by omega) (by omega) (by omega) (by omega)
      next => exact written 9 _ (by omega) (by omega) (by omega) (by omega)

theorem Scan.fixedNumber_two {n : Nat} (small : n < 100) (rest : List Char) :
    Scan.fixedNumber 2 (Text.padded 2 n ++ rest) = .ok ((n : Int), rest) := by
  have digits : ∀ c ∈ Text.padded 2 n, c.isDigit := fun c inside =>
    Text.isDigit_of_mem_padded inside
  have taken := Scan.fixedNumber_append digits rest
  rwa [Text.length_padded (by omega) small, Text.ofDigits_padded] at taken

theorem Scan.offsetMinutes_two {n : Nat} (small : n < 60) (rest : List Char) :
    Scan.offsetMinutes (Text.padded 2 n ++ rest) = .ok ((n : Int), rest) := by
  have enough : ¬ Text.byteSize (Text.padded 2 n ++ rest) < 2 := by
    have size := Text.length_le_byteSize (Text.padded 2 n ++ rest)
    rw [List.length_append, Text.length_padded (by omega) (by omega)] at size
    omega
  have denotes := Text.ofDigits_padded 2 n
  have low : ∀ tens < 6, ¬ '6' ≤ Text.digitChar tens := by decide
  have first : (Text.digitChar (n / 10)).isDigit := Text.isDigit_digitChar (by omega)
  have second : (Text.digitChar (n % 10)).isDigit := Text.isDigit_digitChar (by omega)
  rw [Text.padded_two (by omega)] at enough denotes ⊢
  simp only [List.cons_append, List.nil_append] at enough ⊢
  simp [Scan.offsetMinutes, Scan.need, enough, first, second, low (n / 10) (by omega), denotes,
    bind, Except.bind, pure, Except.pure]

theorem dropWhile_separators {n : Nat} (small : n < 100) (rest : List Char) :
    (':' :: Text.padded 2 n ++ rest).dropWhile (fun c => c = ':' || Text.isBlank c) =
      Text.padded 2 n ++ rest := by
  have digit : (Text.digitChar (n / 10)).isDigit := Text.isDigit_digitChar (by omega)
  have shown := Text.not_isBlank_of_isDigit digit
  have other : Text.digitChar (n / 10) ≠ ':' := by
    intro same
    rw [same] at digit
    cases digit
  rw [Text.padded_two small]
  simp [shown, other]

theorem Scan.offset_of_sign {text rest : List Char} {negative : Bool} {n : Nat} (small : n < 1440)
    (upper : ∀ others, text ≠ 'Z' :: others) (lower : ∀ others, text ≠ 'z' :: others)
    (signed : Scan.sign text =
      .ok (negative, Text.padded 2 (n / 60) ++ ':' :: Text.padded 2 (n % 60) ++ rest)) :
    Scan.offset text = .ok (if negative then -(n * 60 : Int) else n * 60, rest) := by
  have hours := Scan.fixedNumber_two (n := n / 60) (by omega)
    (':' :: Text.padded 2 (n % 60) ++ rest)
  have separated := dropWhile_separators (n := n % 60) (by omega) rest
  have minutes := Scan.offsetMinutes_two (n := n % 60) (by omega) rest
  have seconds : ((n / 60 : Nat) : Int) * 3600 + ((n % 60 : Nat) : Int) * 60 = n * 60 := by omega
  rw [Scan.offset]
  · rw [signed, Outcome.ok_bind, List.append_assoc]
    simp only [hours, separated, minutes, seconds, Outcome.ok_bind]
    rfl
  · exact upper
  · exact lower

theorem Scan.offset_print {offset : Int} (within : -86400 < offset ∧ offset < 86400)
    (wholeMinutes : offset % 60 = 0) (time : Moment.Local) (rest : List Char) :
    Scan.offset (Text.trimStart (Item.offset.print time offset ++ rest)) = .ok (offset, rest) := by
  by_cases zero : offset = 0
  · subst zero
    rfl
  · have minutes : (offset.natAbs + 30) / 60 * 60 = offset.natAbs := by omega
    rw [Item.print, if_neg zero, Moment.offsetChars]
    generalize (offset.natAbs + 30) / 60 = n at minutes
    have small : n < 1440 := by omega
    by_cases negative : offset < 0
    · have value : offset = -(n * 60 : Int) := by omega
      rw [if_pos negative, List.cons_append, List.cons_append, Text.trimStart_cons (by decide),
        Scan.offset_of_sign small (by simp) (by simp) rfl, if_pos rfl, ← value]
    · have value : offset = (n * 60 : Int) := by omega
      rw [if_neg negative, List.cons_append, List.cons_append, Text.trimStart_cons (by decide),
        Scan.offset_of_sign small (by simp) (by simp) rfl, if_neg Bool.false_ne_true, ← value]

end Date

end StoreSchema
