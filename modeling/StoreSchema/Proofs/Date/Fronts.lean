import StoreSchema.Proofs.Date.Told

/-! # The front of a text

What an item can take is decided by the sign that a text begins with, and what an item writes begins
with a sign that is known. So it can be told from two items whether the one takes what the other
wrote: nothing of it, all of it, or only the first of some digits.
-/

namespace StoreSchema.Date

/-! ## Signs at the front -/

def digitSigns : List Char := "0123456789".toList

/-- The signs that begin names. -/
def nameSigns (names : List String) : List Char :=
  names.filterMap (·.toList.head?)

/-- The signs that what an item writes can begin with; none are known where it may write nothing. -/
def Item.signs? : Item → Option (List Char)
  | .literal (c :: _) | .space (c :: _) => some [c]
  | .literal [] | .space [] | .fraction => none
  | .number _ _ | .bare _ => some digitSigns
  | .shortMonth | .longMonth => some (nameSigns monthNames)
  | .shortWeekday | .longWeekday => some (nameSigns weekdayNames)
  | .halfDay => some ['A', 'P']
  | .pointed _ => some ['.']
  | .offset => some ['Z', '+', '-']

/-- Whether an item can take a text that begins with a sign. -/
def Item.accepts (c : Char) : Item → Bool
  | .literal (d :: _) => c = d
  | .number part _ => c.isDigit || Text.isBlank c || (part = .year && (c = '+' || c = '-'))
  | .shortMonth | .longMonth => (nameSigns monthNames).any (·.toLower = c.toLower)
  | .shortWeekday | .longWeekday => (nameSigns weekdayNames).any (·.toLower = c.toLower)
  | .halfDay => c.toLower = 'a' || c.toLower = 'p'
  | .bare _ => c.isDigit
  | .offset => Text.isBlank c || ['Z', 'z', '+', '-', '−'].contains c
  | .literal [] | .space _ | .fraction | .pointed _ => true

/-- Whether an item takes nothing off a text that begins with a sign. -/
def Item.leaves (c : Char) : Item → Bool
  | .space _ => !Text.isBlank c
  | .fraction | .pointed _ => c != '.'
  | _ => false

/-- Whether an item can do without any text. -/
def Item.skips : Item → Bool
  | .literal text => text.isEmpty
  | .space _ | .fraction | .pointed _ => true
  | _ => false

theorem mem_digitSigns {c : Char} (digit : c.isDigit) : c ∈ digitSigns := by
  rw [Text.isDigit_iff] at digit
  have each : ∀ n < 10, Char.ofNat (48 + n) ∈ digitSigns := by decide
  have inside := each (c.toNat - 48) (by omega)
  rwa [Nat.add_sub_cancel' digit.1, Char.ofNat_toNat] at inside

section Fronts

variable {parts after : Parts} {text rest : List Char} {c : Char}

theorem Scan.literal_ok {expected : List Char} (ok : Scan.literal expected text = .ok rest) :
    text = expected ++ rest := by
  obtain ⟨-, -, ok⟩ := Outcome.bind_eq_ok.mp ok
  split at ok
  next begins =>
    cases ok
    exact (List.prefix_iff_eq_append.mp begins).symm
  next => cases ok

theorem Scan.number_accepts {most : Option Nat} {value : Int}
    (ok : Scan.number most (c :: text) = .ok (value, rest)) : c.isDigit := by
  by_contra other
  have none : ∀ count, ((c :: text).take count).takeWhile Char.isDigit = [] := by
    intro count
    cases count <;> simp [other]
  cases most <;> simp [Scan.number, none, other] at ok

theorem NumberPart.scan_accepts {part : NumberPart} {value : Int}
    (ok : part.scan (c :: text) = .ok (value, rest)) :
    c.isDigit ∨ part = .year ∧ (c = '+' ∨ c = '-') := by
  cases part with
  | year =>
      rw [NumberPart.scan, Scan.year.eq_def] at ok
      split at ok
      next same =>
        cases same
        exact .inr ⟨rfl, .inr rfl⟩
      next same =>
        cases same
        exact .inr ⟨rfl, .inl rfl⟩
      next => exact .inl (Scan.number_accepts ok)
  | yearOfCentury | month | day | ordinal | hour | halfDayHour | minute | second =>
      rw [NumberPart.scan] at ok
      · exact .inl (Scan.number_accepts ok)
      · exact NumberPart.noConfusion

theorem Scan.shortName_accepts {names : List String} {index : Nat}
    (ok : Scan.shortName names (c :: text) = .ok (index, rest)) :
    (nameSigns names).any (·.toLower = c.toLower) := by
  obtain ⟨-, -, ok⟩ := Outcome.bind_eq_ok.mp ok
  split at ok
  next found =>
    have begins := congrArg Option.isSome found
    rw [List.findIdx?_isSome, Option.isSome_some, List.any_eq_true] at begins
    obtain ⟨name, inside, same⟩ := begins
    cases letters : name.toList with
    | nil => simp [Scan.sameLetters, letters] at same
    | cons d more =>
        have head : d.toLower = c.toLower := by
          simp only [Scan.sameLetters, letters, List.take_succ_cons, List.map_cons, beq_iff_eq,
            List.cons.injEq] at same
          exact same.1
        have sign : d ∈ nameSigns names :=
          List.mem_filterMap.mpr ⟨name, inside, by rw [letters, List.head?_cons]⟩
        exact List.any_eq_true.mpr ⟨d, sign, decide_eq_true head⟩
  next => cases ok

theorem Scan.shortName_ok {names : List String} {index : Nat}
    (ok : Scan.shortName names text = .ok (index, rest)) : rest = text.drop 3 := by
  obtain ⟨-, -, ok⟩ := Outcome.bind_eq_ok.mp ok
  split at ok <;> cases ok
  rfl

theorem Scan.halfDay_drop {value : Int} (ok : Scan.halfDay text = .ok (value, rest)) :
    rest = text.drop 2 := by
  obtain ⟨-, -, ok⟩ := Outcome.bind_eq_ok.mp ok
  split at ok
  next =>
    cases ok
    rfl
  next =>
    split at ok <;> cases ok
    rfl

theorem Scan.fixedNumber_ok {count : Nat} {value : Int}
    (ok : Scan.fixedNumber count text = .ok (value, rest)) :
    (text.take count).all Char.isDigit ∧ rest = text.drop count := by
  obtain ⟨-, -, ok⟩ := Outcome.bind_eq_ok.mp ok
  dsimp only at ok
  split at ok
  next digits =>
    cases ok
    exact ⟨digits, rfl⟩
  next => cases ok

theorem Scan.fixedFraction_ok {precision : Precision} {value : Int}
    (ok : Scan.fixedFraction precision text = .ok (value, rest)) :
    (text.take precision.digits).all Char.isDigit ∧ rest = text.drop precision.digits := by
  obtain ⟨⟨number, left⟩, fixed, ok⟩ := Outcome.bind_eq_ok.mp ok
  cases ok
  exact Scan.fixedNumber_ok fixed

theorem Scan.halfDay_accepts {value : Int}
    (ok : Scan.halfDay (c :: text) = .ok (value, rest)) : c.toLower = 'a' ∨ c.toLower = 'p' := by
  obtain ⟨-, -, ok⟩ := Outcome.bind_eq_ok.mp ok
  split at ok
  next morning => simp_all [Scan.sameLetters]
  next =>
    split at ok
    next afternoon => simp_all [Scan.sameLetters]
    next => cases ok

theorem Scan.offset_accepts {value : Int} (ok : Scan.offset (c :: text) = .ok (value, rest)) :
    c ∈ ['Z', 'z', '+', '-', '−'] := by
  rw [Scan.offset.eq_def] at ok
  split at ok
  next same => simp_all
  next same => simp_all
  next =>
    obtain ⟨⟨negative, left⟩, signed, -⟩ := Outcome.bind_eq_ok.mp ok
    rw [Scan.sign.eq_def] at signed
    split at signed <;> simp_all

/-- What an item leaves of a text that it takes something off. -/
def Item.Took (text rest : List Char) : Item → Prop
  | .literal expected => text = expected ++ rest
  | .space _ => rest = Text.trimStart text
  | .number part _ => ∃ value, part.scan (Text.trimStart text) = .ok (value, rest)
  | .shortMonth => ∃ index, Scan.shortName monthNames text = .ok (index, rest)
  | .longMonth => ∃ index, Scan.longName monthNames text = .ok (index, rest)
  | .shortWeekday => ∃ index, Scan.shortName weekdayNames text = .ok (index, rest)
  | .longWeekday => ∃ index, Scan.longName weekdayNames text = .ok (index, rest)
  | .halfDay => ∃ value, Scan.halfDay text = .ok (value, rest)
  | .fraction =>
    (∃ others value, text = '.' :: others ∧ Scan.fraction others = .ok (value, rest)) ∨
      (∀ others, text ≠ '.' :: others) ∧ rest = text
  | .pointed precision =>
    (∃ others value, text = '.' :: others ∧
        Scan.fixedFraction precision others = .ok (value, rest)) ∨
      (∀ others, text ≠ '.' :: others) ∧ rest = text
  | .bare precision => ∃ value, Scan.fixedFraction precision text = .ok (value, rest)
  | .offset => ∃ value, Scan.offset (Text.trimStart text) = .ok (value, rest)

theorem Item.took {item : Item} (ok : item.scan parts text = .ok (after, rest)) :
    item.Took text rest := by
  cases item with
  | literal expected =>
      obtain ⟨left, taken, ok⟩ := Outcome.bind_eq_ok.mp ok
      cases ok
      exact Scan.literal_ok taken
  | space =>
      cases ok
      rfl
  | number | shortMonth | longMonth | shortWeekday | longWeekday | halfDay | bare | offset =>
      obtain ⟨⟨value, left⟩, taken, ok⟩ := Outcome.bind_eq_ok.mp ok
      obtain ⟨set, -, ok⟩ := Outcome.bind_eq_ok.mp ok
      cases ok
      exact ⟨value, taken⟩
  | fraction | pointed =>
      rw [Item.scan.eq_def] at ok
      dsimp only at ok
      split at ok
      next others =>
        obtain ⟨⟨value, left⟩, taken, ok⟩ := Outcome.bind_eq_ok.mp ok
        obtain ⟨set, -, ok⟩ := Outcome.bind_eq_ok.mp ok
        cases ok
        exact .inl ⟨others, value, rfl, taken⟩
      next other =>
        cases ok
        exact .inr ⟨other, rfl⟩

theorem Item.Took.accepts {item : Item} (took : item.Took (c :: text) rest) : item.accepts c := by
  cases item with
  | literal expected =>
      cases expected with
      | nil => rfl
      | cons d others => exact decide_eq_true (List.cons.inj took).1
  | space | fraction | pointed => rfl
  | number part padded =>
      obtain ⟨value, taken⟩ := took
      by_cases blank : Text.isBlank c
      · simp [Item.accepts, blank]
      · rw [Text.trimStart_cons (Bool.eq_false_iff.mpr blank)] at taken
        rcases NumberPart.scan_accepts taken with digit | ⟨rfl, signed⟩
        · simp [Item.accepts, digit]
        · simp [Item.accepts, signed]
  | shortMonth | shortWeekday =>
      obtain ⟨index, taken⟩ := took
      exact Scan.shortName_accepts taken
  | longMonth | longWeekday =>
      obtain ⟨index, taken⟩ := took
      obtain ⟨⟨short, others⟩, found, -⟩ := Outcome.bind_eq_ok.mp taken
      exact Scan.shortName_accepts found
  | halfDay =>
      obtain ⟨value, taken⟩ := took
      simpa [Item.accepts] using Scan.halfDay_accepts taken
  | bare precision =>
      obtain ⟨value, taken⟩ := took
      have digits := (Scan.fixedFraction_ok taken).1
      cases precision <;> simp_all [Precision.digits, Item.accepts]
  | offset =>
      obtain ⟨value, taken⟩ := took
      by_cases blank : Text.isBlank c
      · simp [Item.accepts, blank]
      · rw [Text.trimStart_cons (Bool.eq_false_iff.mpr blank)] at taken
        simpa [Item.accepts, blank] using Scan.offset_accepts taken

theorem Item.scan_leaves {item : Item} (leaves : item.leaves c) :
    item.scan parts (c :: text) = .ok (parts, c :: text) := by
  cases item with
  | space blanks =>
      have shown : Text.isBlank c = false := by simpa [Item.leaves] using leaves
      rw [Item.scan, Text.trimStart_cons shown]
  | fraction | pointed =>
      have other : c ≠ '.' := by simpa [Item.leaves] using leaves
      rw [Item.scan]
      intro others same
      exact other (List.cons.inj same).1
  | literal | number | shortMonth | longMonth | shortWeekday | longWeekday | halfDay | bare
  | offset => cases leaves

theorem Item.scan_skips {item : Item} (skips : item.skips) :
    item.scan parts [] = .ok (parts, []) := by
  cases item with
  | literal expected =>
      have none : expected = [] := List.isEmpty_iff.mp skips
      subst none
      rfl
  | space | fraction | pointed => rfl
  | number | shortMonth | longMonth | shortWeekday | longWeekday | halfDay | bare | offset =>
      cases skips

theorem Item.Took.skips {item : Item} (took : item.Took [] rest) : item.skips := by
  cases item with
  | literal expected => exact List.isEmpty_iff.mpr (List.append_eq_nil_iff.mp took.symm).1
  | space | fraction | pointed => rfl
  | number part padded =>
      obtain ⟨value, taken⟩ := took
      cases part <;> cases taken
  | shortMonth | longMonth | shortWeekday | longWeekday | halfDay | offset =>
      obtain ⟨value, taken⟩ := took
      cases taken
  | bare precision =>
      obtain ⟨value, taken⟩ := took
      cases precision <;> cases taken

end Fronts

/-! ## What items write -/

/-- How many digits a number has at most, and as many when it is padded. -/
def NumberPart.most : NumberPart → Nat
  | .year => 4
  | part => part.width

/-- Whether an item takes exactly what another one writes, before the items that follow that one. -/
def Item.takes (others : List Item) : Item → Item → Bool
  | .literal text, .literal same => text = same
  | .number part _, .number other padded =>
    other.most ≤ part.most && (padded && part.most = other.most || stops others)
  | .bare precision, .bare same | .pointed precision, .pointed same => precision = same
  | .shortMonth, .shortMonth | .shortWeekday, .shortWeekday | .halfDay, .halfDay
  | .offset, .offset => true
  | .fraction, .fraction => stops others && noPoint others
  | _, _ => false

/-- Whether an item takes some digits off a number that another one writes, and leaves some. -/
def Item.cuts : Item → Item → Bool
  | .number part _, .number other padded => padded && part.most < other.most
  | _, _ => false

section Numbers

variable {m : Moment} (part : NumberPart)

theorem NumberPart.most_bounds : 0 < part.most ∧ part.most ≤ 9 := by
  cases part <;> decide

theorem NumberPart.value_width (time : Moment.Local) : (part.value time).1 = part.most := by
  cases part <;> rfl

theorem NumberPart.scan_of_digit {c : Char} (digit : c.isDigit) (rest : List Char) :
    part.scan (Text.trimStart (c :: rest)) = Scan.number (some part.most) (c :: rest) := by
  rw [Text.trimStart_cons (Text.not_isBlank_of_isDigit digit)]
  cases part with
  | year => exact Scan.year_of_digit digit rest
  | yearOfCentury | month | day | ordinal | hour | halfDayHour | minute | second => rfl

theorem NumberPart.left_of_scan {digits rest left : List Char} {value : Int}
    (all : ∀ c ∈ digits, c.isDigit) (nonempty : digits ≠ []) (fits : digits.length ≤ part.most)
    (ends : digits.length = part.most ∨ Ends rest)
    (taken : part.scan (Text.trimStart (digits ++ rest)) = .ok (value, left)) : left = rest := by
  have front := Scan.number_append all nonempty fits ends part.most_bounds.2
  cases digits with
  | nil => exact absurd rfl nonempty
  | cons c others =>
      rw [List.cons_append] at taken front
      rw [part.scan_of_digit (all c List.mem_cons_self), front] at taken
      cases taken
      rfl

/-- The digits that a number writes at a moment. -/
def NumberPart.chars (padded : Bool) (time : Moment.Local) : List Char :=
  numberChars padded (part.value time).1 (part.value time).2

theorem NumberPart.isDigit_chars (padded : Bool) (time : Moment.Local) :
    ∀ c ∈ part.chars padded time, c.isDigit :=
  fun _ inside => isDigit_of_mem_numberChars inside

theorem NumberPart.chars_ne_nil (padded : Bool) (time : Moment.Local) :
    part.chars padded time ≠ [] :=
  numberChars_ne_nil _ _ _

theorem NumberPart.length_chars (padded : Bool) {time : Moment.Local} (valid : time.Valid) :
    (part.chars padded time).length ≤ part.most ∧
      (padded → (part.chars padded time).length = part.most) := by
  have bound := part.value_lt valid
  rw [part.value_width] at bound
  have positive := part.most_bounds.1
  rw [NumberPart.chars, part.value_width]
  unfold numberChars
  split
  next =>
    have length := Text.length_padded positive bound
    exact ⟨length.le, fun _ => length⟩
  next short => exact ⟨Text.length_digits_le positive bound, fun full => absurd full short⟩

end Numbers

section Names

theorem shortName_length {names : List String} {index : Nat} (inside : index < names.length)
    (long : names.all fun name => 3 ≤ name.toList.length) :
    (shortName names index).length = 3 := by
  have letters := List.all_eq_true.mp long names[index] (List.getElem_mem inside)
  rw [decide_eq_true_eq] at letters
  simpa [shortName, nameAt, inside] using letters

theorem name_signs (names : List String) {index : Nat} (inside : index < names.length)
    (nonempty : names.all fun name => name.toList ≠ []) :
    ∃ c text, nameAt names index = c :: text ∧ c ∈ nameSigns names := by
  have member := List.getElem_mem inside
  have letters := List.all_eq_true.mp nonempty names[index] member
  have spelt : nameAt names index = names[index].toList := by simp [nameAt, inside]
  cases written : names[index].toList with
  | nil => simp [written] at letters
  | cons c text =>
      exact ⟨c, text, spelt.trans written,
        List.mem_filterMap.mpr ⟨names[index], member, by rw [written, List.head?_cons]⟩⟩

theorem month_inside {time : Moment.Local} (valid : time.Valid) : time.date.month - 1 < 12 := by
  have month := valid.month
  omega

theorem weekday_inside (m : Moment) : m.toLocal.weekday < 7 := by
  simp only [Moment.toLocal, Calendar.weekday]
  omega

end Names

theorem Precision.length_chars (precision : Precision) {nanos : Nat} (bound : nanos < 1000000000) :
    (precision.chars nanos).length = precision.digits := by
  cases precision with
  | millis => exact Text.length_padded (by decide) (show nanos / 1000000 < 1000 by omega)
  | micros => exact Text.length_padded (by decide) (show nanos / 1000 < 1000000 by omega)
  | nanos => exact Text.length_padded (by decide) (show nanos / 1 < 1000000000 by omega)

theorem fraction_left {nanos : Nat} (bound : nanos < 1000000000) {parts after : Parts}
    {rest left : List Char} (ends : Ends rest) (noPoint : ∀ others, rest ≠ '.' :: others)
    (ok : Item.scan parts (Moment.fractionChars nanos ++ rest) .fraction = .ok (after, left)) :
    left = rest := by
  rw [fraction_print bound ends noPoint] at ok
  split at ok
  next =>
    cases ok
    rfl
  next =>
    cases set : parts.setNanos nanos with
    | error misread => simp [set, Except.map] at ok
    | ok told =>
        rw [set] at ok
        cases ok
        rfl

theorem digit_signs {text : List Char} (all : ∀ c ∈ text, c.isDigit) (nonempty : text ≠ []) :
    ∃ c rest, text = c :: rest ∧ c ∈ digitSigns := by
  cases text with
  | nil => exact absurd rfl nonempty
  | cons c rest => exact ⟨c, rest, rfl, mem_digitSigns (all c List.mem_cons_self)⟩

section Written

variable {m : Moment} {parts after : Parts} {rest left : List Char}

theorem Item.print_signs (writable : m.Writable) {item : Item} {signs : List Char}
    (known : item.signs? = some signs) :
    ∃ c text, item.print m.toLocal m.offset = c :: text ∧ c ∈ signs := by
  cases item with
  | literal text | space text =>
      cases text with
      | nil => cases known
      | cons c others =>
          cases known
          exact ⟨c, others, rfl, List.mem_singleton_self c⟩
  | number part padded =>
      cases known
      exact digit_signs (part.isDigit_chars padded m.toLocal) (part.chars_ne_nil padded m.toLocal)
  | shortMonth =>
      cases known
      obtain ⟨c, text, name, sign⟩ := name_signs monthNames
        (month_inside writable.valid) (by decide)
      exact ⟨c, text.take 2, by rw [Item.print, shortName, name, List.take_succ_cons], sign⟩
  | longMonth =>
      cases known
      exact name_signs monthNames (month_inside writable.valid) (by decide)
  | shortWeekday =>
      cases known
      obtain ⟨c, text, name, sign⟩ := name_signs weekdayNames (weekday_inside m)
        (by decide)
      exact ⟨c, text.take 2, by rw [Item.print, shortName, name, List.take_succ_cons], sign⟩
  | longWeekday =>
      cases known
      exact name_signs weekdayNames (weekday_inside m) (by decide)
  | halfDay =>
      cases known
      rw [Item.print]
      split
      next => exact ⟨'A', ['M'], rfl, by decide⟩
      next => exact ⟨'P', ['M'], rfl, by decide⟩
  | fraction => cases known
  | pointed precision =>
      cases known
      exact ⟨'.', _, rfl, by decide⟩
  | bare precision =>
      cases known
      have length := precision.length_chars writable.valid.nanos
      have positive : 0 < precision.digits := by cases precision <;> decide
      have nonempty : precision.chars m.toLocal.nanos ≠ [] := List.ne_nil_of_length_pos (by omega)
      exact digit_signs (fun c inside => Text.isDigit_of_mem_padded inside) nonempty
  | offset =>
      cases known
      rw [Item.print]
      split
      next => exact ⟨'Z', [], rfl, by decide⟩
      next =>
        unfold Moment.offsetChars
        split
        next => exact ⟨'-', _, rfl, by decide⟩
        next => exact ⟨'+', _, rfl, by decide⟩

/-- An item that takes what another one writes leaves what the items behind that one write. -/
theorem Item.scan_takes (writable : m.Writable) {item other : Item} {others : List Item}
    (takes : item.takes others other)
    (ok : item.scan parts (other.print m.toLocal m.offset ++
        others.flatMap (Item.print m.toLocal m.offset)) = .ok (after, left)) :
    left = others.flatMap (Item.print m.toLocal m.offset) := by
  generalize following : others.flatMap (Item.print m.toLocal m.offset) = rest at ok ⊢
  have valid := writable.valid
  unfold Item.takes at takes
  split at takes
  next text same =>
    have same := of_decide_eq_true takes
    subst same
    exact (List.append_cancel_left (Item.took ok)).symm
  next part _ other padded =>
    simp only [Bool.and_eq_true, Bool.or_eq_true, decide_eq_true_eq] at takes
    obtain ⟨fits, ends⟩ := takes
    obtain ⟨value, taken⟩ := Item.took ok
    have length := other.length_chars padded valid
    have whole : (other.chars padded m.toLocal).length = part.most ∨ Ends rest :=
      ends.imp (fun full => (length.2 full.1).trans full.2.symm)
        fun stop => following ▸ ends_of_stops stop
    exact part.left_of_scan (other.isDigit_chars padded m.toLocal)
      (other.chars_ne_nil padded m.toLocal) (length.1.trans fits) whole taken
  next precision same =>
    have same := of_decide_eq_true takes
    subst same
    obtain ⟨value, taken⟩ := Item.took ok
    rw [(Scan.fixedFraction_ok taken).2]
    exact List.drop_left' (precision.length_chars valid.nanos)
  next precision same =>
    have same := of_decide_eq_true takes
    subst same
    rcases Item.took ok with ⟨behind, value, point, taken⟩ | ⟨other, -⟩
    · obtain ⟨-, same⟩ := List.cons.inj point
      rw [(Scan.fixedFraction_ok taken).2, ← same]
      exact List.drop_left' (precision.length_chars valid.nanos)
    · exact absurd rfl (other _)
  -- Names and halves of the day have a fixed length.
  next =>
    obtain ⟨index, taken⟩ := Item.took ok
    rw [Scan.shortName_ok taken]
    exact List.drop_left' (shortName_length (month_inside valid) (by decide))
  next =>
    obtain ⟨index, taken⟩ := Item.took ok
    rw [Scan.shortName_ok taken]
    exact List.drop_left' (shortName_length (weekday_inside m) (by decide))
  next =>
    obtain ⟨value, taken⟩ := Item.took ok
    rw [Scan.halfDay_drop taken]
    refine List.drop_left' ?_
    rw [Item.print]
    split <;> rfl
  next =>
    obtain ⟨value, taken⟩ := Item.took ok
    rw [Scan.offset_print writable.offset writable.wholeMinutes] at taken
    cases taken
    rfl
  next =>
    obtain ⟨stop, point⟩ := Bool.and_eq_true_iff.mp takes
    exact fraction_left valid.nanos (following ▸ ends_of_stops stop)
      (following ▸ noPoint_print point) ok
  next => cases takes

/-- A number that takes too few digits leaves one behind. -/
theorem Item.scan_cuts (writable : m.Writable) {item other : Item} (cuts : item.cuts other)
    (ok : item.scan parts (other.print m.toLocal m.offset ++ rest) = .ok (after, left)) :
    ∃ c text, left = c :: text ∧ c.isDigit := by
  unfold Item.cuts at cuts
  split at cuts
  next part _ other padded =>
    obtain ⟨full, fewer⟩ := Bool.and_eq_true_iff.mp cuts
    rw [decide_eq_true_eq] at fewer
    have length := (other.length_chars padded writable.valid).2 full
    have digits := other.isDigit_chars padded m.toLocal
    obtain ⟨value, taken⟩ := Item.took ok
    change part.scan (Text.trimStart (other.chars padded m.toLocal ++ rest)) = _ at taken
    generalize other.chars padded m.toLocal = chars at length digits taken
    have fits : (chars.take part.most).length = part.most := by
      rw [List.length_take]
      omega
    have positive := part.most_bounds.1
    have nonempty : chars.take part.most ≠ [] := List.ne_nil_of_length_pos (by omega)
    have more : chars.drop part.most ≠ [] :=
      List.ne_nil_of_length_pos (by rw [List.length_drop]; omega)
    rw [← List.take_append_drop part.most chars, List.append_assoc] at taken
    have behind := part.left_of_scan (fun c inside => digits c (List.mem_of_mem_take inside)) nonempty
      fits.le (.inl fits) taken
    cases beyond : chars.drop part.most with
    | nil => exact absurd beyond more
    | cons c text =>
        have inside : c ∈ chars := List.mem_of_mem_drop (beyond ▸ List.mem_cons_self)
        exact ⟨c, text ++ rest, by rw [behind, beyond, List.cons_append], digits c inside⟩
  next => cases cuts

end Written

end StoreSchema.Date
