import PortableSearch.Calendar.Civil
import Mathlib.Order.Monotone.Basic
import Mathlib.Algebra.Order.Group.Int
import Mathlib.Order.SuccPred.Basic
import Mathlib.Tactic.IntervalCases

/-! The months of the calendar lie one behind the other. Months are counted through all years by an
index; the month of an index begins before that of the next, and the date of a day lies in the month
that has begun by that day while the next has not. -/
namespace PortableSearch.Calendar

/-! Years -/

/-- The length of a year. -/
def yearLength (year : Int) : Int := if isLeap year then 366 else 365

theorem daysBeforeYear_succ (year : Int) :
    daysBeforeYear (year + 1) = daysBeforeYear year + yearLength year := by
  have leap : isLeap year = true ↔ year % 4 = 0 ∧ (year % 100 ≠ 0 ∨ year % 400 = 0) := by
    simp [isLeap]
  simp only [daysBeforeYear, yearLength, leap]
  split <;> omega

/-- The mean length of a year leads at most one year astray. -/
theorem yearOfDay_spec (days : Int) : daysBeforeYear (yearOfDay days) ≤ days ∧
    days < daysBeforeYear (yearOfDay days + 1) := by
  unfold yearOfDay
  dsimp only
  split
  · rename_i early
    simp only [daysBeforeYear] at early ⊢
    omega
  · split
    · rename_i late
      simp only [daysBeforeYear] at late ⊢
      omega
    · rename_i early late
      exact ⟨by omega, by omega⟩

/-! Months of a year -/

/-- Days from the first day of a year to that of its month after so many others. -/
def daysBeforeMonth (year : Int) (passed : Nat) : Nat :=
  ((monthLengths year).take passed).foldl (· + ·) 0

theorem daysBeforeMonth_succ (year : Int) (passed : Nat) (inside : passed < 12) :
    daysBeforeMonth year (passed + 1) =
      daysBeforeMonth year passed + daysInMonth year (passed + 1) := by
  have there : passed < (monthLengths year).length := inside
  simp only [daysBeforeMonth, daysInMonth, List.take_add_one, List.getElem?_eq_getElem there,
    Option.toList_some, List.foldl_append, List.foldl_cons, List.foldl_nil, Nat.succ_ne_zero,
    if_false, Nat.add_sub_cancel, List.getD_eq_getElem?_getD, Option.getD_some]

theorem daysBeforeMonth_year (year : Int) : (daysBeforeMonth year 12 : Int) = yearLength year := by
  simp only [daysBeforeMonth, monthLengths, yearLength]
  split <;> rfl

theorem daysInMonth_ge (year : Int) (passed : Nat) (inside : passed < 12) :
    28 ≤ daysInMonth year (passed + 1) := by
  simp only [daysInMonth, monthLengths]
  interval_cases passed <;> simp
  split <;> decide

theorem daysInMonth_le (year : Int) {month : Nat} (first : 1 ≤ month) (last : month ≤ 12) :
    daysInMonth year month ≤ 31 := by
  simp only [daysInMonth, monthLengths]
  interval_cases month <;> simp
  split <;> decide

theorem daysBeforeMonth_eq_sum (year : Int) (passed : Nat) :
    daysBeforeMonth year passed = ((monthLengths year).take passed).sum :=
  List.sum_eq_foldl.symm

/-- The days that are left over from whole months lie in the month after these. -/
theorem splitMonth_spec (month : Nat) {rest : Nat} {lengths : List Nat}
    (inside : rest < lengths.sum) :
    ∃ passed < lengths.length, (splitMonth month lengths rest).1 = month + passed ∧
      (lengths.take passed).sum + (splitMonth month lengths rest).2 = rest + 1 ∧
      1 ≤ (splitMonth month lengths rest).2 ∧ rest < (lengths.take (passed + 1)).sum := by
  induction lengths generalizing month rest with
  | nil => simp at inside
  | cons length lengths ih =>
    rw [List.sum_cons] at inside
    simp only [splitMonth]
    split
    · rename_i early
      exact ⟨0, by simp, rfl, by simp, by simp, by simpa using early⟩
    · rename_i late
      obtain ⟨passed, bound, first, second, positive, last⟩ :=
        ih (month + 1) (show rest - length < lengths.sum by omega)
      refine ⟨passed + 1, by simpa using bound, by rw [first]; omega, ?_, positive, ?_⟩
      · rw [List.take_succ_cons, List.sum_cons]
        omega
      · rw [List.take_succ_cons, List.sum_cons]
        omega

/-! Months of all years -/

/-- The number of a month counted through all years. -/
def Date.monthIndex (d : Date) : Int := d.year * 12 + ((d.month : Int) - 1)

/-- The first day of the month with an index. -/
def firstOfMonth (index : Int) : Date := ⟨index / 12, (index % 12).toNat + 1, 1⟩

/-- Days from 1970-01-01 to the first day of the month with an index. -/
def monthStart (index : Int) : Int := (firstOfMonth index).dayNumber

theorem dayNumber_eq (year : Int) (passed day : Nat) : Date.dayNumber ⟨year, passed + 1, day⟩ =
    daysBeforeYear year + daysBeforeMonth year passed + ((day : Int) - 1) - epochDay := rfl

theorem monthStart_eq (index : Int) : monthStart index =
    daysBeforeYear (index / 12) + daysBeforeMonth (index / 12) (index % 12).toNat - epochDay := by
  rw [monthStart, firstOfMonth, dayNumber_eq]
  omega

theorem firstOfMonth_monthIndex {d : Date} (first : 1 ≤ d.month) (last : d.month ≤ 12) :
    firstOfMonth d.monthIndex = { d with day := 1 } := by
  obtain ⟨year, month, day⟩ := d
  simp only [firstOfMonth, Date.monthIndex, Date.mk.injEq, and_true] at first last ⊢
  exact ⟨by omega, by omega⟩

theorem monthIndex_firstOfMonth (index : Int) : (firstOfMonth index).monthIndex = index := by
  simp only [firstOfMonth, Date.monthIndex]
  omega

/-- A month begins where the one before it ends. -/
theorem monthStart_succ (index : Int) : monthStart (index + 1) =
    monthStart index + daysInMonth (index / 12) ((index % 12).toNat + 1) := by
  rw [monthStart_eq, monthStart_eq]
  have next := daysBeforeMonth_succ (index / 12) (index % 12).toNat (by omega)
  -- December has no next month in its own year; there the days of the next year are counted.
  by_cases december : index % 12 = 11
  · have year : (index + 1) / 12 = index / 12 + 1 := by omega
    have january : ((index + 1) % 12).toNat = 0 := by omega
    have whole := daysBeforeMonth_year (index / 12)
    have eleven : (index % 12).toNat = 11 := by omega
    have none : daysBeforeMonth (index / 12 + 1) 0 = 0 := rfl
    rw [eleven] at next ⊢
    change daysBeforeMonth (index / 12) 12 = _ at next
    rw [year, january, none, daysBeforeYear_succ]
    omega
  · have year : (index + 1) / 12 = index / 12 := by omega
    have month : ((index + 1) % 12).toNat = (index % 12).toNat + 1 := by omega
    rw [year, month]
    omega

theorem monthStart_lt_iff {i j : Int} : monthStart i < monthStart j ↔ i < j := by
  have increasing : StrictMono monthStart := by
    refine strictMono_int_of_lt_succ fun index => ?_
    have positive := daysInMonth_ge (index / 12) (index % 12).toNat (by omega)
    rw [monthStart_succ]
    omega
  exact increasing.lt_iff_lt

theorem monthStart_le_iff {i j : Int} : monthStart i ≤ monthStart j ↔ i ≤ j := by
  have later : monthStart j < monthStart i ↔ j < i := monthStart_lt_iff
  omega

/-- The date of a day lies in the month that has begun by that day while the next has not, and its
day counts from the beginning of that month. -/
theorem ofDayNumber_spec (number : Int) :
    let d := Date.ofDayNumber number
    1 ≤ d.month ∧ d.month ≤ 12 ∧ monthStart d.monthIndex + d.day = number + 1 ∧ 1 ≤ d.day ∧
      number < monthStart (d.monthIndex + 1) := by
  intro d
  -- The year is found first; the days left over lie within its twelve months.
  obtain ⟨began, ended⟩ := yearOfDay_spec (number + epochDay)
  rw [daysBeforeYear_succ, ← daysBeforeMonth_year] at ended
  change daysBeforeYear d.year ≤ _ at began
  change _ < daysBeforeYear d.year + daysBeforeMonth d.year 12 at ended
  have inside : (number + epochDay - daysBeforeYear d.year).toNat < (monthLengths d.year).sum := by
    have whole := daysBeforeMonth_eq_sum d.year 12
    rw [List.take_of_length_le (by rfl)] at whole
    omega
  obtain ⟨passed, bound, month, day, positive, last⟩ := splitMonth_spec 1 inside
  have short : passed < 12 := bound
  change d.month = 1 + passed at month
  change _ + d.day = _ at day
  change 1 ≤ d.day at positive
  have index : d.monthIndex = d.year * 12 + passed := by
    rw [Date.monthIndex, month]
    omega
  have year : d.monthIndex / 12 = d.year := by omega
  have place : (d.monthIndex % 12).toNat = passed := by omega
  have start : monthStart d.monthIndex + d.day = number + 1 := by
    rw [monthStart_eq, year, place, daysBeforeMonth_eq_sum]
    omega
  refine ⟨by omega, by omega, start, positive, ?_⟩
  rw [monthStart_succ, year, place]
  have next := daysBeforeMonth_succ d.year passed short
  rw [daysBeforeMonth_eq_sum, daysBeforeMonth_eq_sum] at next
  omega

theorem dayNumber_ofDayNumber (number : Int) : (Date.ofDayNumber number).dayNumber = number := by
  obtain ⟨first, last, start, -, -⟩ := ofDayNumber_spec number
  generalize Date.ofDayNumber number = d at first last start ⊢
  obtain ⟨year, month, day⟩ := d
  obtain ⟨passed, rfl⟩ : ∃ passed, month = passed + 1 := ⟨month - 1, by simp at first; omega⟩
  rw [monthStart, firstOfMonth_monthIndex first last, dayNumber_eq] at start
  rw [dayNumber_eq]
  simp only at start
  omega

/-! Days of a month -/

/-- The length of the month with an index. -/
def monthLength (index : Int) : Nat := daysInMonth (index / 12) ((index % 12).toNat + 1)

theorem monthLength_ge (index : Int) : 28 ≤ monthLength index :=
  daysInMonth_ge (index / 12) (index % 12).toNat (by omega)

/-- The date of a day within a month. -/
theorem ofDayNumber_within (index : Int) {days : Nat} (inside : days < monthLength index) :
    (Date.ofDayNumber (monthStart index + days)).monthIndex = index ∧
      (Date.ofDayNumber (monthStart index + days)).day = days + 1 := by
  obtain ⟨-, -, start, positive, ends⟩ := ofDayNumber_spec (monthStart index + days)
  generalize Date.ofDayNumber (monthStart index + days) = d at start positive ends ⊢
  have next : monthStart (index + 1) = monthStart index + monthLength index := monthStart_succ index
  have begun : d.monthIndex < index + 1 := monthStart_lt_iff.mp (by omega)
  have within : index < d.monthIndex + 1 := monthStart_lt_iff.mp (by omega)
  obtain rfl : d.monthIndex = index := by omega
  exact ⟨rfl, by omega⟩

theorem monthStart_add (index : Int) (days : Nat) :
    Date.dayNumber ⟨index / 12, (index % 12).toNat + 1, days + 1⟩ = monthStart index + days := by
  rw [dayNumber_eq, monthStart_eq]
  omega

theorem monthIndex_mono {earlier later : Int} (le : earlier ≤ later) :
    (Date.ofDayNumber earlier).monthIndex ≤ (Date.ofDayNumber later).monthIndex := by
  obtain ⟨-, -, began, first, -⟩ := ofDayNumber_spec earlier
  obtain ⟨-, -, -, -, ends⟩ := ofDayNumber_spec later
  -- The month of the earlier day begins before that of the later one ends.
  have before : monthStart (Date.ofDayNumber earlier).monthIndex <
      monthStart ((Date.ofDayNumber later).monthIndex + 1) := by omega
  have := monthStart_lt_iff.mp before
  omega

end PortableSearch.Calendar
