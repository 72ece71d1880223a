import PortableSearch.Proofs.DateMath.SpacedRule

/-! When a change of a yearly rule comes. It is dated in its month, moves to a weekday by whole
weeks and less than another, and so comes about as late in one year as in any other: far from the
turn of the year if it is dated in an ordinary month. -/
namespace PortableSearch.Calendar
variable {c : YearlyChange} {year wall : Int}

theorem newYear_days (year : Int) :
    newYear year = (daysBeforeYear year - epochDay) * microsPerDay := by
  have whole : 12 * year / 12 = year := by omega
  have none : (12 * year % 12).toNat = 0 := by omega
  rw [newYear_eq, monthStart_eq, whole, none]
  show (daysBeforeYear year + 0 - epochDay) * microsPerDay = _
  rw [Int.add_zero]

theorem newYear_succ (year : Int) : newYear year + 365 * microsPerDay ≤ newYear (year + 1) ∧
    newYear (year + 1) ≤ newYear year + 366 * microsPerDay := by
  have length : 365 ≤ yearLength year ∧ yearLength year ≤ 366 := by
    unfold yearLength
    split <;> decide
  rw [newYear_days, newYear_days, daysBeforeYear_succ]
  simp only [microsPerDay, microsPerSecond]
  omega

theorem year_newYear (year : Int) : (dateOfWall (newYear year)).year = year := by
  obtain ⟨started, ongoing⟩ := year_spec (newYear year)
  obtain ⟨length, -⟩ := newYear_succ year
  rcases lt_trichotomy (dateOfWall (newYear year)).year year with earlier | same | later
  · have late : newYear ((dateOfWall (newYear year)).year + 1) ≤ newYear year := newYear_le earlier
    omega
  · exact same
  · have ahead : newYear (year + 1) ≤ newYear (dateOfWall (newYear year)).year := newYear_le later
    simp only [microsPerDay, microsPerSecond] at length
    omega

namespace YearlyChange

/-- The day of a change in a year, before it moves to a weekday. -/
def dayIn (c : YearlyChange) (year : Int) : Int :=
  let month := max c.month 1
  let date : Date := ⟨year, month, min (daysInMonth year month) (max c.day 1)⟩
  date.dayNumber - if c.skipsLeapDay && 2 < month && isLeap year then 1 else 0

theorem dayIn_inMonth {month : Nat} (named : max c.month 1 = month + 1) (inYear : month < 12)
    (year : Int) : monthStart (12 * year + month) - 1 ≤ c.dayIn year ∧
      c.dayIn year < monthStart (12 * year + month + 1) := by
  have year' : (12 * year + month) / 12 = year := by omega
  have month' : ((12 * year + month) % 12).toNat = month := by omega
  have length := daysInMonth_ge year month inYear
  have start := monthStart_add (12 * year + month)
    (min (daysInMonth year (month + 1)) (max c.day 1) - 1)
  have next := monthStart_succ (12 * year + month)
  rw [year', month', Nat.sub_add_cancel (by omega)] at start
  rw [year', month'] at next
  simp only [dayIn, named, start]
  split <;> omega

theorem dayIn_inYear (month : c.month ≤ 12) (year : Int) :
    newYear year - microsPerDay ≤ c.dayIn year * microsPerDay ∧
      c.dayIn year * microsPerDay < newYear (year + 1) := by
  obtain ⟨begun, ended⟩ :=
    dayIn_inMonth (show max c.month 1 = max c.month 1 - 1 + 1 by omega) (by omega) year
  have first : monthStart (12 * year) ≤ monthStart (12 * year + (max c.month 1 - 1 : Nat)) :=
    monthStart_le_iff.mpr (by omega)
  have last : monthStart (12 * year + (max c.month 1 - 1 : Nat) + 1) ≤
      monthStart (12 * (year + 1)) := monthStart_le_iff.mpr (by omega)
  rw [newYear_eq, newYear_eq]
  simp only [microsPerDay, microsPerSecond]
  omega

/-- The wall time of a change in a year, before it moves to a weekday. -/
def timeIn (c : YearlyChange) (year : Int) : Int :=
  c.dayIn year * microsPerDay + c.seconds * microsPerSecond

/-- The days from a wall time to the weekday of a change. -/
def jumpFrom (c : YearlyChange) (wall : Int) : Int :=
  match c.weekday with
  | none => 0
  | some (target, nth) => weekdayJump (Calendar.weekday (dayOfWall wall)) target nth

/-- The whole weeks among them. -/
def weeks (c : YearlyChange) : Int :=
  match c.weekday with
  | none => 0
  | some (_, nth) => if nth < 0 then nth + 1 else max nth 1 - 1

theorem jumpFrom_weeks (c : YearlyChange) (wall : Int) :
    7 * c.weeks - 6 ≤ c.jumpFrom wall ∧ c.jumpFrom wall ≤ 7 * c.weeks + 6 := by
  unfold jumpFrom weeks
  cases c.weekday with
  | none => exact ⟨by simp, by simp⟩
  | some goal =>
    simp only [weekdayJump]
    split <;> omega

theorem wallIn_iff : c.wallIn year = .ok wall ↔ c.month ≤ 12 ∧ InCalendar (c.timeIn year) ∧
    InCalendar wall ∧ wall = c.timeIn year + c.jumpFrom (c.timeIn year) * microsPerDay := by
  have steps : c.wallIn year = if 12 < max c.month 1 then .error .noSuchMonth
      else checkWall (c.timeIn year) >>= fun base =>
        match c.weekday with
        | none => .ok base
        | some (target, nth) => checkWall
          (base + weekdayJump (Calendar.weekday (dayOfWall base)) target nth * microsPerDay) := rfl
  rw [steps]
  split
  · exact ⟨nofun, fun ⟨_, _⟩ => by omega⟩
  · have month : c.month ≤ 12 := by omega
    rw [bind_ok]
    simp only [checkWall_ok, jumpFrom]
    cases c.weekday with
    | none =>
      constructor
      · rintro ⟨_, ⟨inside, rfl⟩, moved⟩
        cases moved
        exact ⟨month, inside, inside, by simp⟩
      · rintro ⟨-, inside, -, rfl⟩
        exact ⟨_, ⟨inside, rfl⟩, by simp⟩
    | some goal =>
      constructor
      · rintro ⟨_, ⟨inside, rfl⟩, moved⟩
        obtain ⟨inside', rfl⟩ := checkWall_ok.mp moved
        exact ⟨month, inside, inside', rfl⟩
      · rintro ⟨-, inside, inside', rfl⟩
        exact ⟨_, ⟨inside, rfl⟩, checkWall_ok.mpr ⟨inside', rfl⟩⟩

/-- How much later than its day a change comes in all years, up to six days. -/
theorem wallIn_near (found : c.wallIn year = .ok wall) :
    c.timeIn year + (7 * c.weeks - 6) * microsPerDay ≤ wall ∧
      wall ≤ c.timeIn year + (7 * c.weeks + 6) * microsPerDay := by
  obtain ⟨-, -, -, rfl⟩ := wallIn_iff.mp found
  have jump := c.jumpFrom_weeks (c.timeIn year)
  simp only [microsPerDay, microsPerSecond]
  omega

/-- Where a change is in the calendar in all years, it comes in its year, or little more than a year
before or after it. -/
theorem wallIn_inYears
    (always : ∀ year, 1 ≤ year → year ≤ 9999 → ∃ wall, c.wallIn year = .ok wall)
    (found : c.wallIn year = .ok wall) :
    newYear year - 400 * microsPerDay ≤ wall ∧ wall ≤ newYear year + 800 * microsPerDay := by
  -- The change is as late in the first year and in the last one, but for a year and two weeks.
  obtain ⟨first, found'⟩ := always 1 (by decide) (by decide)
  obtain ⟨last, found''⟩ := always 9999 (by decide) (by decide)
  obtain ⟨month, -, ⟨begun, -⟩, -⟩ := wallIn_iff.mp found'
  obtain ⟨-, -, ⟨-, ended⟩, -⟩ := wallIn_iff.mp found''
  have near := wallIn_near found
  have near' := wallIn_near found'
  have near'' := wallIn_near found''
  have days := dayIn_inYear month
  have day := days year
  have day' := days 1
  have day'' := days 9999
  have length := (newYear_succ year).2
  have length' := (newYear_succ 1).2
  have length'' := (newYear_succ 9999).2
  have ends : newYear (9999 + 1) = lastWall + 1 := newYear_last
  rw [← newYear_first] at begun
  simp only [timeIn, microsPerDay, microsPerSecond] at *
  omega

/-- The change is dated between February and November, and comes at most three weeks before or after
its date, not counting a day and the days to the weekday. -/
structure IsOrdinary (c : YearlyChange) : Prop where
  month : 2 ≤ c.month ∧ c.month ≤ 11
  seconds : -86400 ≤ c.seconds ∧ c.seconds ≤ 86400
  weeks : -3 ≤ c.weeks ∧ c.weeks ≤ 3

theorem IsOrdinary.dayIn (ordinary : c.IsOrdinary) (year : Int) :
    newYear year + 30 * microsPerDay ≤ c.dayIn year * microsPerDay ∧
      c.dayIn year * microsPerDay + 31 * microsPerDay < newYear (year + 1) := by
  obtain ⟨february, november⟩ := ordinary.month
  obtain ⟨begun, ended⟩ :=
    dayIn_inMonth (show max c.month 1 = c.month - 1 + 1 by omega) (by omega) year
  have january := monthStart_succ (12 * year)
  have december := monthStart_succ (12 * year + 11)
  have first : monthStart (12 * year + 1) ≤ monthStart (12 * year + (c.month - 1 : Nat)) :=
    monthStart_le_iff.mpr (by omega)
  have last : monthStart (12 * year + (c.month - 1 : Nat) + 1) ≤ monthStart (12 * year + 11) :=
    monthStart_le_iff.mpr (by omega)
  have whole : 12 * year / 12 = year ∧ (12 * year % 12).toNat = 0 := by omega
  have whole' : (12 * year + 11) / 12 = year ∧ ((12 * year + 11) % 12).toNat = 11 := by omega
  have next : 12 * year + 11 + 1 = 12 * (year + 1) := by omega
  have length : daysInMonth year 1 = 31 := rfl
  have length' : daysInMonth year 12 = 31 := rfl
  rw [whole.1, whole.2, Nat.zero_add, length] at january
  rw [whole'.1, whole'.2, length', next] at december
  rw [newYear_eq, newYear_eq]
  simp only [microsPerDay, microsPerSecond]
  omega

theorem IsOrdinary.wallIn (ordinary : c.IsOrdinary) (first : 1 ≤ year) (last : year ≤ 9999) :
    ∃ wall, c.wallIn year = .ok wall ∧ newYear year + 2 * microsPerDay ≤ wall ∧
      wall + 2 * microsPerDay ≤ newYear (year + 1) := by
  have day := ordinary.dayIn year
  have jump := c.jumpFrom_weeks (c.timeIn year)
  obtain ⟨early, late⟩ := ordinary.seconds
  obtain ⟨few, few'⟩ := ordinary.weeks
  have begins := newYear_le first
  have ends : newYear (year + 1) ≤ newYear 10000 := newYear_le (by omega)
  rw [newYear_first] at begins
  rw [newYear_last] at ends
  have month := ordinary.month
  refine ⟨_, wallIn_iff.mpr ⟨by omega, ?_, ?_, rfl⟩, ?_⟩ <;>
  · simp only [InCalendar, timeIn, microsPerDay, microsPerSecond] at *
    omega

end YearlyChange

end PortableSearch.Calendar
