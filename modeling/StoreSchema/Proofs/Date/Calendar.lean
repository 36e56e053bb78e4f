import Mathlib.Algebra.BigOperators.Group.List.Basic
import Mathlib.Algebra.Ring.Nat
import Mathlib.Order.SuccPred.Basic
import StoreSchema.Date.Calendar

/-! # Days and dates

Every day has one place in one year, and one place in one month of it. A date that names such a
place determines the day, and the day shows the date again.
-/

namespace StoreSchema.Calendar

/-! ## Years -/

theorem firstDay_succ (year : Int) : firstDay (year + 1) = firstDay year + yearLength year := by
  unfold firstDay daysBefore yearLength isLeap
  simp only [Bool.and_eq_true, Bool.or_eq_true, decide_eq_true_eq]
  split <;> omega

theorem firstDay_mono {year later : Int} (before : year ≤ later) :
    firstDay year ≤ firstDay later := by
  induction later, before using Int.leInduction with
  | base => exact Int.le_refl _
  | succ later _ ih =>
      rw [firstDay_succ]
      omega

theorem yearLength_cases (year : Int) : yearLength year = 365 ∨ yearLength year = 366 := by
  unfold yearLength
  split <;> simp

/-- A year in cycles of 400, 100, 4 and 1 years that are over when it begins. -/
structure Cycles (c400 c100 c4 c1 : Int) : Prop where
  c100 : 0 ≤ c100 ∧ c100 ≤ 3
  c4 : 0 ≤ c4 ∧ c4 ≤ 24
  c1 : 0 ≤ c1 ∧ c1 ≤ 3

namespace Cycles

variable {c400 c100 c4 c1 : Int}

theorem daysBefore (cycles : Cycles c400 c100 c4 c1) :
    daysBefore (400 * c400 + 100 * c100 + 4 * c4 + c1 + 1) =
      146097 * c400 + 36524 * c100 + 1461 * c4 + 365 * c1 := by
  obtain ⟨⟨_, _⟩, ⟨_, _⟩, ⟨_, _⟩⟩ := cycles
  unfold Calendar.daysBefore
  simp only
  omega

theorem yearLength (cycles : Cycles c400 c100 c4 c1) :
    yearLength (400 * c400 + 100 * c100 + 4 * c4 + c1 + 1) =
      if c1 = 3 ∧ (c4 ≠ 24 ∨ c100 = 3) then 366 else 365 := by
  obtain ⟨⟨_, _⟩, ⟨_, _⟩, ⟨_, _⟩⟩ := cycles
  unfold Calendar.yearLength isLeap
  simp only [Bool.and_eq_true, Bool.or_eq_true, decide_eq_true_eq]
  refine if_congr ?_ rfl rfl
  omega

end Cycles

/-- A day is the one at its place in its year, which has that place. -/
theorem yearDay_spec (day : Int) :
    1 ≤ (yearDay day).ordinal ∧ (yearDay day).ordinal ≤ yearLength (yearDay day).year ∧
      firstDay (yearDay day).year + ((yearDay day).ordinal - 1) = day := by
  unfold yearDay firstDay
  generalize Calendar.daysBefore 1970 = shift
  simp only
  generalize first : (day + shift) / 146097 = c400
  generalize rest : (day + shift) % 146097 = r400
  generalize second : min (r400 / 36524) 3 = c100
  generalize third : (r400 - 36524 * c100) / 1461 = c4
  generalize rest' : (r400 - 36524 * c100) % 1461 = r4
  generalize fourth : min (r4 / 365) 3 = c1
  have cycles : Cycles c400 c100 c4 c1 := by
    constructor <;> omega
  rw [cycles.daysBefore, cycles.yearLength]
  refine ⟨by omega, ?_, by omega⟩
  split <;> omega

theorem year_unique {year other : Int} {place otherPlace : Nat} (within : place < yearLength year)
    (otherWithin : otherPlace < yearLength other)
    (same : firstDay year + place = firstDay other + otherPlace) :
    year = other ∧ place = otherPlace := by
  have apart : ∀ {early late : Int}, early < late →
      firstDay early + yearLength early ≤ firstDay late := by
    intro early late less
    rw [← firstDay_succ]
    exact firstDay_mono less
  rcases lt_trichotomy year other with less | equal | greater
  · have gap := apart less
    omega
  · subst equal
    exact ⟨rfl, by omega⟩
  · have gap := apart greater
    omega

theorem yearDay_of_place {year : Int} {place : Nat} (within : place < yearLength year) :
    yearDay (firstDay year + place) = ⟨year, place + 1⟩ := by
  have spec := yearDay_spec (firstDay year + place)
  generalize yearDay (firstDay year + place) = found at spec
  obtain ⟨foundYear, ordinal⟩ := found
  simp only at spec
  obtain ⟨least, most, same⟩ := spec
  have otherWithin : ordinal - 1 < yearLength foundYear := by omega
  obtain ⟨years, places⟩ := year_unique otherWithin within (by omega)
  rw [years, YearDay.mk.injEq]
  omega

/-! ## Months -/

theorem monthDay_of_place {lengths : List Nat} {index day length : Nat} (month : Nat)
    (listed : lengths[index]? = some length) (least : 1 ≤ day) (most : day ≤ length) :
    monthDay month lengths ((lengths.take index).sum + day) = (month + index, day) := by
  induction lengths generalizing month index with
  | nil => simp at listed
  | cons first rest ih =>
      cases index with
      | zero =>
          cases Option.some.inj listed
          simp [monthDay, most]
      | succ index =>
          have behind : ¬ (first + (rest.take index).sum + day ≤ first) := by omega
          have left : first + (rest.take index).sum + day - first = (rest.take index).sum + day := by
            omega
          rw [List.take_succ_cons, List.sum_cons, monthDay, if_neg behind, left,
            ih (month + 1) listed]
          congr 1
          omega

theorem exists_month {lengths : List Nat} {ordinal : Nat} (least : 1 ≤ ordinal)
    (most : ordinal ≤ lengths.sum) :
    ∃ index length day, lengths[index]? = some length ∧ 1 ≤ day ∧ day ≤ length ∧
      (lengths.take index).sum + day = ordinal := by
  induction lengths generalizing ordinal with
  | nil =>
      rw [List.sum_nil] at most
      omega
  | cons first rest ih =>
      by_cases here : ordinal ≤ first
      · exact ⟨0, first, ordinal, rfl, least, here, by simp⟩
      · rw [List.sum_cons] at most
        obtain ⟨index, length, day, listed, dayLeast, dayMost, same⟩ :=
          ih (show 1 ≤ ordinal - first by omega) (by omega)
        refine ⟨index + 1, length, day, listed, dayLeast, dayMost, ?_⟩
        rw [List.take_succ_cons, List.sum_cons]
        omega

theorem sum_monthLengths (year : Int) : (monthLengths year).sum = yearLength year := by
  unfold monthLengths yearLength
  cases isLeap year <;> rfl

theorem daysBeforeMonth_eq (year : Int) (index : Nat) :
    daysBeforeMonth year (index + 1) = ((monthLengths year).take index).sum := by
  rw [daysBeforeMonth, Nat.add_sub_cancel, List.sum_eq_foldl]

theorem month_length {year : Int} {index length : Nat}
    (listed : (monthLengths year)[index]? = some length) : index < 12 ∧ 1 ≤ length ∧ length ≤ 31 := by
  have inside := List.mem_of_getElem? listed
  obtain ⟨bound, -⟩ := List.getElem?_eq_some_iff.mp listed
  have months : (monthLengths year).length = 12 := rfl
  refine ⟨by omega, ?_⟩
  simp only [monthLengths, List.mem_cons, List.not_mem_nil, or_false] at inside
  split at inside <;> omega

/-! ## Dates -/

theorem date_of_place {year : Int} {index day length : Nat}
    (listed : (monthLengths year)[index]? = some length) (least : 1 ≤ day) (most : day ≤ length) :
    date (firstDay year + daysBeforeMonth year (index + 1) + (day - 1)) =
      ⟨year, index + 1, day, daysBeforeMonth year (index + 1) + day⟩ := by
  have within : daysBeforeMonth year (index + 1) + day ≤ yearLength year := by
    rw [daysBeforeMonth_eq, ← sum_monthLengths]
    have split := List.take_append_drop index (monthLengths year)
    obtain ⟨bound, same⟩ := List.getElem?_eq_some_iff.mp listed
    rw [← List.getElem_cons_drop bound, same] at split
    have total := congrArg List.sum split
    rw [List.sum_append, List.sum_cons] at total
    omega
  have place : firstDay year + daysBeforeMonth year (index + 1) + (day - 1) =
      firstDay year + (daysBeforeMonth year (index + 1) + day - 1 : Nat) := by
    omega
  have months := monthDay_of_place 1 listed least most
  rw [← daysBeforeMonth_eq] at months
  rw [date, place, yearDay_of_place (by omega)]
  simp only [Nat.sub_add_cancel (Nat.le_add_left_of_le least), months, Nat.add_comm 1 index]

theorem ofDate?_eq_some {year : Int} {month day : Nat} {found : Int}
    (read : ofDate? year month day = some found) :
    (date found).year = year ∧ (date found).month = month ∧ (date found).day = day := by
  unfold ofDate? at read
  split at read
  next valid =>
    simp only [Bool.and_eq_true, decide_eq_true_eq] at valid
    split at read
    next length listed =>
      split at read
      next most =>
        cases read
        obtain ⟨⟨-, least⟩, dayLeast⟩ := valid
        have same := date_of_place listed dayLeast most
        rw [Nat.sub_add_cancel least] at same
        rw [same]
        exact ⟨rfl, rfl, rfl⟩
      next => cases read
    next => cases read
  next => cases read

theorem ofOrdinal?_eq_some {year : Int} {ordinal : Nat} {found : Int}
    (read : ofOrdinal? year ordinal = some found) :
    (date found).year = year ∧ (date found).ordinal = ordinal := by
  unfold ofOrdinal? at read
  split at read
  next valid =>
    simp only [Bool.and_eq_true, decide_eq_true_eq] at valid
    cases read
    have place : firstDay year + ((ordinal : Int) - 1) = firstDay year + (ordinal - 1 : Nat) := by
      omega
    rw [place, date, yearDay_of_place (by omega)]
    exact ⟨rfl, Nat.sub_add_cancel valid.1.2⟩
  next => cases read

/-- What a day shows is a date, and determines the day either way. -/
structure Shown (day : Int) : Prop where
  month : 1 ≤ (date day).month ∧ (date day).month ≤ 12
  dayOfMonth : 1 ≤ (date day).day ∧ (date day).day ≤ 31
  ordinal : 1 ≤ (date day).ordinal ∧ (date day).ordinal ≤ 366
  ofDate : hasYear (date day).year →
    ofDate? (date day).year (date day).month (date day).day = some day
  ofOrdinal : hasYear (date day).year →
    ofOrdinal? (date day).year (date day).ordinal = some day

theorem shown (day : Int) : Shown day := by
  obtain ⟨least, most, same⟩ := yearDay_spec day
  have lengths := yearLength_cases (yearDay day).year
  obtain ⟨index, length, dayOfMonth, listed, dayLeast, dayMost, place⟩ :=
    exists_month least (by rwa [sum_monthLengths])
  obtain ⟨months, lengthLeast, lengthMost⟩ := month_length listed
  have shows := date_of_place listed dayLeast dayMost
  rw [← daysBeforeMonth_eq] at place
  have here : firstDay (yearDay day).year + daysBeforeMonth (yearDay day).year (index + 1) +
      ((dayOfMonth : Int) - 1) = day := by
    omega
  rw [here] at shows
  rw [place] at shows
  refine ⟨?_, ?_, ?_, ?_, ?_⟩
  · rw [shows]
    simp only
    omega
  · rw [shows]
    simp only
    omega
  · rw [shows]
    simp only
    omega
  · intro valid
    rw [shows] at valid ⊢
    simp only at valid
    simp [ofDate?, valid, dayLeast, listed, dayMost, here]
  · intro valid
    rw [shows] at valid ⊢
    simp only at valid
    simp [ofOrdinal?, valid, least, most, same]

theorem hasYear_of_range {year : Int} (range : 0 ≤ year ∧ year ≤ 9999) : hasYear year := by
  simp only [hasYear, Bool.and_eq_true, decide_eq_true_eq]
  unfold leastYear greatestYear
  omega

theorem exists_firstOfMonth {year : Int} {month : Nat} (valid : hasYear year) (least : 1 ≤ month)
    (most : month ≤ 12) : ∃ day, ofDate? year month 1 = some day := by
  have bound : month - 1 < (monthLengths year).length := by
    simp only [monthLengths, List.length_cons, List.length_nil]
    omega
  have listed := List.getElem?_eq_getElem bound
  obtain ⟨-, lengthLeast, -⟩ := month_length listed
  simp [ofDate?, valid, least, listed, lengthLeast]

/-! ## Bounds -/

theorem day_bounds (day : Int) :
    firstDay (date day).year ≤ day ∧ day < firstDay ((date day).year + 1) := by
  obtain ⟨least, most, same⟩ := yearDay_spec day
  have year : (date day).year = (yearDay day).year := rfl
  rw [year, firstDay_succ]
  omega

theorem hasDay_near {day near : Int} (least : leastYear < (date day).year)
    (most : (date day).year < greatestYear) (close : day - 1 ≤ near ∧ near ≤ day + 1) :
    hasDay near := by
  obtain ⟨after, before⟩ := day_bounds day
  have early := firstDay_mono (show leastYear + 1 ≤ (date day).year by omega)
  have late := firstDay_mono (show (date day).year + 1 ≤ greatestYear by omega)
  have firstLength := firstDay_succ leastYear
  have lastLength := firstDay_succ greatestYear
  have first := yearLength_cases leastYear
  have last := yearLength_cases greatestYear
  simp only [hasDay, Bool.and_eq_true, decide_eq_true_eq]
  omega

end StoreSchema.Calendar
