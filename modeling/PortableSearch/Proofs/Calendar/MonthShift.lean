import PortableSearch.Calendar.DateMath.Anchor
import PortableSearch.Proofs.Calendar.Months

/-! Shifts by months on a wall clock. The month of a wall time moves on by exactly so many months
and the time of day stays; the day of the month stays as far as the new month is long enough for it
and is its last day otherwise. -/
namespace PortableSearch.Calendar

/-- A wall time is so many months later than another one. -/
structure IsMonthsLater (months wall later : Int) : Prop where
  month : (dateOfWall later).monthIndex = (dateOfWall wall).monthIndex + months
  day : (dateOfWall later).day =
    min (dateOfWall wall).day (daysInMonth (dateOfWall later).year (dateOfWall later).month)
  time : timeOfWall later = timeOfWall wall

/-- The date of a wall time lies in the month of its index. -/
theorem dateOfWall_spec (wall : Int) :
    daysInMonth (dateOfWall wall).year (dateOfWall wall).month =
        monthLength (dateOfWall wall).monthIndex ∧
      1 ≤ (dateOfWall wall).day ∧ (dateOfWall wall).day ≤ monthLength (dateOfWall wall).monthIndex ∧
      wall = (monthStart (dateOfWall wall).monthIndex + ((dateOfWall wall).day - 1 : Nat)) *
        microsPerDay + timeOfWall wall := by
  obtain ⟨first, last, began, positive, ends⟩ := ofDayNumber_spec (dayOfWall wall)
  rw [← dateOfWall] at first last began positive ends
  generalize dateOfWall wall = d at *
  have next : monthStart (d.monthIndex + 1) = monthStart d.monthIndex + monthLength d.monthIndex :=
    monthStart_succ d.monthIndex
  refine ⟨?_, positive, by omega, ?_⟩
  · have same := firstOfMonth_monthIndex first last
    rw [firstOfMonth, Date.mk.injEq] at same
    rw [monthLength, same.1, same.2.1]
  · simp only [dayOfWall, timeOfWall, microsPerDay, microsPerSecond] at *
    omega

/-- A day of a month at a time of day. -/
theorem dateOfWall_within {index time : Int} {days : Nat} (inside : days < monthLength index)
    (start : 0 ≤ time) (stop : time < microsPerDay) :
    let wall := (monthStart index + days) * microsPerDay + time
    (dateOfWall wall).monthIndex = index ∧ (dateOfWall wall).day = days + 1 ∧
      timeOfWall wall = time := by
  intro wall
  have day : dayOfWall wall = monthStart index + days := by
    simp only [wall, dayOfWall, microsPerDay, microsPerSecond] at *
    omega
  obtain ⟨month, nth⟩ := ofDayNumber_within index inside
  refine ⟨by rw [dateOfWall, day, month], by rw [dateOfWall, day, nth], ?_⟩
  simp only [wall, timeOfWall, microsPerDay, microsPerSecond] at *
  omega

theorem timeOfWall_bounds (wall : Int) : 0 ≤ timeOfWall wall ∧ timeOfWall wall < microsPerDay := by
  simp only [timeOfWall, microsPerDay, microsPerSecond]
  omega

/-- A wall time lies in the calendar exactly if its month does. -/
theorem inCalendar_iff (wall : Int) : firstWall ≤ wall ∧ wall ≤ lastWall ↔
    12 ≤ (dateOfWall wall).monthIndex ∧ (dateOfWall wall).monthIndex < 120000 := by
  obtain ⟨-, positive, last, whole⟩ := dateOfWall_spec wall
  obtain ⟨start, stop⟩ := timeOfWall_bounds wall
  have begins : monthStart 12 * microsPerDay = firstWall := rfl
  have ends : monthStart 120000 * microsPerDay = lastWall + 1 := rfl
  generalize (dateOfWall wall).monthIndex = index at *
  have next : monthStart (index + 1) = monthStart index + monthLength index := monthStart_succ index
  have first : monthStart 12 ≤ monthStart index ↔ 12 ≤ index := monthStart_le_iff
  have before : monthStart 12 < monthStart (index + 1) ↔ 12 < index + 1 := monthStart_lt_iff
  have after : monthStart index < monthStart 120000 ↔ index < 120000 := monthStart_lt_iff
  have within : monthStart (index + 1) ≤ monthStart 120000 ↔ index + 1 ≤ 120000 :=
    monthStart_le_iff
  simp only [microsPerDay, microsPerSecond] at *
  omega

namespace DateMath

/-- The wall time so many months later, whether or not the calendar has it. -/
def monthsLater (months wall : Int) : Int :=
  let d := dateOfWall wall
  let index := d.monthIndex + months
  (monthStart index + (min d.day (monthLength index) - 1 : Nat)) * microsPerDay + timeOfWall wall

theorem isMonthsLater (months wall : Int) :
    IsMonthsLater months wall (monthsLater months wall) := by
  obtain ⟨-, positive, -⟩ := dateOfWall_spec wall
  obtain ⟨start, stop⟩ := timeOfWall_bounds wall
  have long := monthLength_ge ((dateOfWall wall).monthIndex + months)
  have inside : min (dateOfWall wall).day (monthLength ((dateOfWall wall).monthIndex + months)) -
      1 < monthLength ((dateOfWall wall).monthIndex + months) := by omega
  obtain ⟨month, day, time⟩ := dateOfWall_within inside start stop
  change (dateOfWall (monthsLater months wall)).monthIndex = _ at month
  change (dateOfWall (monthsLater months wall)).day = _ at day
  obtain ⟨length, -⟩ := dateOfWall_spec (monthsLater months wall)
  refine ⟨month, ?_, time⟩
  rw [length, month, day]
  omega

/-- Month, day and time of day determine a wall time. -/
theorem isMonthsLater_iff {months wall later : Int} :
    IsMonthsLater months wall later ↔ later = monthsLater months wall := by
  constructor
  · rintro ⟨month, day, time⟩
    obtain ⟨length, -, -, whole⟩ := dateOfWall_spec later
    rw [length] at day
    rw [month, day, time] at whole
    rw [month] at whole
    exact whole
  · rintro rfl
    exact isMonthsLater months wall

theorem monthsLater_zero (wall : Int) : monthsLater 0 wall = wall := by
  obtain ⟨-, -, last, whole⟩ := dateOfWall_spec wall
  rw [monthsLater, Int.add_zero, Nat.min_eq_left last]
  exact whole.symm

/-- In the first four weeks of a month, which every month has, the day and the time of day stay. -/
theorem monthsLater_inMonth {index months rest : Int} (forward : 0 ≤ rest)
    (short : rest < 28 * microsPerDay) :
    monthsLater months (monthStart index * microsPerDay + rest) =
      monthStart (index + months) * microsPerDay + rest := by
  obtain ⟨days, time, whole, early, start, stop⟩ : ∃ (days : Nat) (time : Int),
      rest = days * microsPerDay + time ∧ days < 28 ∧ 0 ≤ time ∧ time < microsPerDay := by
    refine ⟨(rest / microsPerDay).toNat, rest % microsPerDay, ?_⟩
    simp only [microsPerDay, microsPerSecond] at *
    omega
  have long := monthLength_ge index
  have long' := monthLength_ge (index + months)
  obtain ⟨month, day, clock⟩ := dateOfWall_within (Nat.lt_of_lt_of_le early long) start stop
  rw [whole, ← Int.add_assoc, ← Int.add_mul, monthsLater, month, day, clock]
  simp only [microsPerDay, microsPerSecond]
  omega

theorem shiftMonths_eq (months wall : Int) :
    let year := ((dateOfWall wall).monthIndex + months) / 12
    shiftMonths months wall =
      if year < -Int.pow 2 31 || Int.pow 2 31 ≤ year then .error .beyondCalendar
      else if year < firstYear || lastYear < year then .error .noSuchYear
      else .ok (monthsLater months wall) := by
  intro year
  obtain ⟨-, positive, -⟩ := dateOfWall_spec wall
  have long := monthLength_ge ((dateOfWall wall).monthIndex + months)
  have day := monthStart_add ((dateOfWall wall).monthIndex + months)
    (min (dateOfWall wall).day (monthLength ((dateOfWall wall).monthIndex + months)) - 1)
  rw [Nat.sub_add_cancel (by omega)] at day
  rw [monthsLater, ← day]
  rfl

/-- Back over the same months, a day that was cut stays as many days behind. -/
theorem monthsLater_back {months wall later : Int} (moved : IsMonthsLater months wall later) :
    monthsLater (-months) later = wall - ((dateOfWall wall).day -
      daysInMonth (dateOfWall later).year (dateOfWall later).month : Nat) * microsPerDay := by
  obtain ⟨month, day, time⟩ := moved
  obtain ⟨-, positive, last, whole⟩ := dateOfWall_spec wall
  obtain ⟨length, -⟩ := dateOfWall_spec later
  have long := monthLength_ge (dateOfWall later).monthIndex
  have index : (dateOfWall later).monthIndex + -months = (dateOfWall wall).monthIndex := by omega
  rw [length] at day ⊢
  rw [monthsLater, index, day, time]
  simp only [microsPerDay, microsPerSecond] at *
  omega

/-- A shift by months succeeds where it stays in the calendar. -/
theorem shiftMonths_ok {months wall later : Int} : shiftMonths months wall = .ok later ↔
    (firstWall ≤ later ∧ later ≤ lastWall) ∧ later = monthsLater months wall := by
  have inYears := inCalendar_iff (monthsLater months wall)
  have power : Int.pow 2 31 = 2147483648 := rfl
  rw [(isMonthsLater months wall).month] at inYears
  rw [shiftMonths_eq]
  generalize monthsLater months wall = reached at *
  generalize (dateOfWall wall).monthIndex + months = index at *
  have failing (fault : Calendar.Fault) (outside : ¬ (firstWall ≤ reached ∧ reached ≤ lastWall)) :
      (.error fault : Except Calendar.Fault Int) = .ok later ↔
        (firstWall ≤ later ∧ later ≤ lastWall) ∧ later = reached :=
    ⟨nofun, fun ⟨inside, same⟩ => absurd (same ▸ inside) outside⟩
  split
  · rename_i far
    rw [Bool.or_eq_true, decide_eq_true_eq, decide_eq_true_eq, power] at far
    exact failing _ (by omega)
  · split
    · rename_i outside
      rw [Bool.or_eq_true, decide_eq_true_eq, decide_eq_true_eq, firstYear, lastYear] at outside
      exact failing _ (by omega)
    · rename_i inside
      rw [Bool.or_eq_true, decide_eq_true_eq, decide_eq_true_eq, firstYear, lastYear] at inside
      constructor
      · rintro ⟨⟩
        exact ⟨inYears.mpr (by omega), rfl⟩
      · rintro ⟨-, rfl⟩
        rfl

end DateMath

end PortableSearch.Calendar
