import StoreSchema.Proofs.Date.Scanning

/-! # Parts that a row of items tells

Items that are clear take off what they wrote, whatever items follow. What a row of clear items has
read in the end is what the clock and the calendar showed, for the parts that the row writes.
-/

namespace StoreSchema.Date

/-! ## Rows that are clear -/

/-- Whether what items write does not begin with a digit. -/
def stops : List Item → Bool
  | [] => true
  | .literal (c :: _) :: _ => !c.isDigit
  | .fraction :: rest => stops rest
  | .offset :: _ => true
  | _ => false

/-- Whether what items write does not begin with a point. -/
def noPoint : List Item → Bool
  | [] => true
  | .literal (c :: _) :: _ => c != '.'
  | .offset :: _ => true
  | _ => false

/-- The numbers that stand for one part of a date each. -/
def NumberPart.plain : NumberPart → Bool
  | .yearOfCentury | .halfDayHour => false
  | _ => true

/-- Whether each item can tell its end from what follows. -/
def clear : List Item → Bool
  | [] => true
  | .literal _ :: rest => clear rest
  | .number part padded :: rest => part.plain && (padded || stops rest) && clear rest
  | .fraction :: rest => stops rest && noPoint rest && clear rest
  | .offset :: rest => clear rest
  | _ => false

section Following

variable {time : Moment.Local} {offset : Int} {items : List Item}

theorem offset_head (time : Moment.Local) (offset : Int) :
    ∃ c rest, Item.offset.print time offset = c :: rest ∧ c.isDigit = false ∧ c ≠ '.' := by
  rw [Item.print]
  split
  next => exact ⟨'Z', [], rfl, by decide, by decide⟩
  next =>
    unfold Moment.offsetChars
    split
    next => exact ⟨'-', _, rfl, by decide, by decide⟩
    next => exact ⟨'+', _, rfl, by decide, by decide⟩

theorem ends_of_stops (yes : stops items) : Ends (items.flatMap (Item.print time offset)) := by
  induction items with
  | nil => exact .nil
  | cons item rest ih =>
      rw [List.flatMap_cons]
      unfold stops at yes
      split at yes
      next none => cases none
      next c text others same =>
        cases same
        intro d more written
        cases written
        simpa using yes
      next others same =>
        cases same
        rw [Item.print]
        intro d more written
        rcases fractionChars_cases time.nanos with none | ⟨width, n, print⟩
        · rw [none] at written
          exact ih yes d more written
        · rw [print] at written
          cases written
          rfl
      next others same =>
        cases same
        obtain ⟨c, text, print, digit, -⟩ := offset_head time offset
        intro d more written
        rw [print] at written
        cases written
        exact digit
      next => cases yes

theorem noPoint_print (yes : noPoint items) (others : List Char) :
    items.flatMap (Item.print time offset) ≠ '.' :: others := by
  intro written
  unfold noPoint at yes
  split at yes
  next => cases written
  next c text rest =>
    cases written
    cases yes
  next rest =>
    obtain ⟨c, text, print, -, other⟩ := offset_head time offset
    rw [List.flatMap_cons, print] at written
    cases written
    exact other rfl
  next => cases yes

end Following

/-! ## What is told -/

/-- Whether an item writes a number. -/
def Item.writes (part : NumberPart) : Item → Bool
  | .number other _ => other = part
  | _ => false

def writes (items : List Item) (part : NumberPart) : Bool :=
  items.any (Item.writes part)

/-- A number as the clock and the calendar show it, if items write it. -/
def NumberPart.told (part : NumberPart) (time : Moment.Local) (items : List Item) : Option Int :=
  if writes items part then some (part.value time).2 else none

/-- The parts that items tell. A fraction of zero is not written. -/
def Parts.told (time : Moment.Local) (offset : Int) (items : List Item) : Parts where
  year := NumberPart.year.told time items
  month := NumberPart.month.told time items
  day := NumberPart.day.told time items
  ordinal := NumberPart.ordinal.told time items
  halfDay := (NumberPart.hour.told time items).map (· / 12)
  halfDayHour := (NumberPart.hour.told time items).map (· % 12)
  minute := NumberPart.minute.told time items
  second := NumberPart.second.told time items
  nanos := if items.contains .fraction && time.nanos ≠ 0 then some time.nanos else none
  offset := if items.contains .offset then some offset else none

section Setting

variable {time : Moment.Local} {offset : Int} {seen : List Item} {part : NumberPart}

theorem NumberPart.told_append (item : Item) :
    part.told time (seen ++ [item]) =
      if item.writes part then some ((part.value time).2 : Int) else part.told time seen := by
  simp only [NumberPart.told, writes, List.any_append, List.any_cons, List.any_nil, Bool.or_false,
    Bool.or_eq_true]
  split <;> split <;> simp_all

theorem Parts.agree_told (told : Bool) (value : Int) :
    Parts.agree (if told then some value else none) value = .ok (some value) := by
  cases told with
  | false => rfl
  | true => simp [Parts.agree]

theorem Parts.inRange_within {low high value : Int} (range : low ≤ value ∧ value ≤ high) :
    Parts.inRange low high value = .ok () := if_pos range

theorem NumberPart.set_told (plain : part.plain) (valid : time.Valid) (padded : Bool) :
    part.set (part.value time).2 (Parts.told time offset seen) =
      .ok (Parts.told time offset (seen ++ [.number part padded])) := by
  have agreed : Parts.agree (part.told time seen) (part.value time).2 =
      .ok (some ((part.value time).2 : Int)) := Parts.agree_told _ _
  obtain ⟨year, month, day, ordinal, hour, minute, second, -⟩ := valid
  have wide : Nat.pow 2 31 = 2147483648 := rfl
  cases part with
  | yearOfCentury | halfDayHour => cases plain
  | year | month | day | ordinal | minute | second =>
      simp only [NumberPart.set, Parts.setYear, Parts.setMonth, Parts.setDay, Parts.setOrdinal,
        Parts.setMinute, Parts.setSecond]
      rw [Parts.inRange_within]
      · simp only [Outcome.ok_bind, Parts.told, agreed]
        simp [NumberPart.told_append, Item.writes, pure, Except.pure]
      · simp only [NumberPart.value, wide]
        omega
  | hour =>
      have each : ∀ change : Int → Int,
          Parts.agree ((NumberPart.hour.told time seen).map change)
            (change (NumberPart.hour.value time).2) =
          .ok (some (change (NumberPart.hour.value time).2)) := by
        intro change
        have mapped : (NumberPart.hour.told time seen).map change =
            if writes seen .hour then some (change (NumberPart.hour.value time).2) else none := by
          unfold NumberPart.told
          split <;> rfl
        rw [mapped, Parts.agree_told]
      have half := each (· / 12)
      have hour := each (· % 12)
      rw [NumberPart.set, Parts.setHour, Parts.inRange_within]
      · simp only [Outcome.ok_bind, Parts.told, half, hour]
        simp [NumberPart.told_append, Item.writes, pure, Except.pure]
      · simp only [NumberPart.value]
        omega

theorem told_literal (text : List Char) :
    Parts.told time offset (seen ++ [.literal text]) = Parts.told time offset seen := by
  simp [Parts.told, NumberPart.told_append, Item.writes]

theorem setNanos_told (valid : time.Valid) (nonzero : time.nanos ≠ 0) :
    Parts.setNanos time.nanos (Parts.told time offset seen) =
      .ok (Parts.told time offset (seen ++ [.fraction])) := by
  have nanos := valid.nanos
  have agreed : Parts.agree (Parts.told time offset seen).nanos time.nanos =
      .ok (some (time.nanos : Int)) := Parts.agree_told _ _
  rw [Parts.setNanos, Parts.inRange_within (by omega), Outcome.ok_bind, agreed]
  simp [Parts.told, NumberPart.told_append, Item.writes, nonzero, pure, Except.pure]

theorem setOffset_told :
    Parts.setOffset offset (Parts.told time offset seen) =
      .ok (Parts.told time offset (seen ++ [.offset])) := by
  have agreed : Parts.agree (Parts.told time offset seen).offset offset = .ok (some offset) :=
    Parts.agree_told _ _
  rw [Parts.setOffset, agreed]
  simp [Parts.told, NumberPart.told_append, Item.writes, pure, Except.pure]

end Setting

/-! ## Items and rows -/

section Rows

variable {time : Moment.Local} {offset : Int}

/-- A clear item takes off what it wrote and tells it. -/
theorem scan_step {item : Item} {rest : List Item} (valid : time.Valid)
    (within : -86400 < offset ∧ offset < 86400) (wholeMinutes : offset % 60 = 0)
    (unambiguous : clear (item :: rest)) (seen : List Item) :
    item.scan (Parts.told time offset seen)
        (item.print time offset ++ rest.flatMap (Item.print time offset)) =
      .ok (Parts.told time offset (seen ++ [item]), rest.flatMap (Item.print time offset)) := by
  cases item with
  | literal text =>
      rw [Item.print, Item.scan, Scan.literal_append, told_literal]
      rfl
  | number part padded =>
      simp only [clear, Bool.and_eq_true, Bool.or_eq_true] at unambiguous
      obtain ⟨⟨plain, ends⟩, -⟩ := unambiguous
      have stop : padded ∨ Ends (rest.flatMap (Item.print time offset)) :=
        ends.imp id ends_of_stops
      have taken := part.scan_print padded valid stop
      rw [Item.print, Item.scan, taken]
      simp only [Outcome.ok_bind, NumberPart.set_told plain valid padded]
      rfl
  | fraction =>
      simp only [clear, Bool.and_eq_true] at unambiguous
      obtain ⟨⟨ends, point⟩, -⟩ := unambiguous
      rw [Item.print, fraction_print valid.nanos (ends_of_stops ends) (noPoint_print point)]
      split
      next zero => simp [Parts.told, NumberPart.told_append, Item.writes, zero]
      next nonzero =>
        rw [setNanos_told valid nonzero]
        rfl
  | offset =>
      rw [Item.scan, Scan.offset_print within wholeMinutes, Outcome.ok_bind]
      simp only [setOffset_told]
      rfl
  | space | shortMonth | longMonth | shortWeekday | longWeekday | halfDay | pointed | bare =>
      cases unambiguous

theorem clear_tail {item : Item} {rest : List Item} (unambiguous : clear (item :: rest)) :
    clear rest := by
  cases item with
  | literal | offset => exact unambiguous
  | number | fraction => exact (Bool.and_eq_true_iff.mp unambiguous).2
  | space | shortMonth | longMonth | shortWeekday | longWeekday | halfDay | pointed | bare =>
      cases unambiguous

theorem scanItems_print {items : List Item} (valid : time.Valid)
    (within : -86400 < offset ∧ offset < 86400) (wholeMinutes : offset % 60 = 0)
    (unambiguous : clear items) (seen : List Item) :
    scanItems (Parts.told time offset seen) (items.flatMap (Item.print time offset)) items =
      .ok (Parts.told time offset (seen ++ items)) := by
  induction items generalizing seen with
  | nil => simp [scanItems]
  | cons item rest ih =>
      rw [List.flatMap_cons, scanItems, scan_step valid within wholeMinutes unambiguous,
        Outcome.ok_bind]
      simp only
      rw [ih (clear_tail unambiguous), List.append_assoc, List.singleton_append]

end Rows

end StoreSchema.Date
