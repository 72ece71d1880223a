import PortableSearch.Proofs.DateMath.UnitEnd

/-! Rounding where the offset from UTC is the same at all times. There a unit is a range of
milliseconds: those of the fixed lengths form a grid on the clock of the zone, and months and years
run from one first day to the next. Rounding leads to the two ends of the range. -/
namespace PortableSearch.Calendar

namespace Zone

/-- The clock of the zone is ahead of that of UTC by so many seconds at all times. -/
inductive IsAhead : Zone → Int → Prop where
  | utc : IsAhead .utc 0
  | fixed {offset} : IsAhead (.fixed offset) offset

/-- An instant that the calendar has both in UTC and on the clock of the zone. -/
def Shows (z : Zone) (utc : Int) : Prop :=
  checkWall utc = .ok utc ∧ ∃ r, z.ofUtc utc = .ok r ∧ z.toUtc r = .ok utc

variable {z : Zone} {offset utc : Int} {r : Reading}

theorem toUtc_ok (has : z.HasOffset offset)
    (inside : InCalendar (r.wall - offset * microsPerSecond)) :
    z.toUtc r = .ok (r.wall - offset * microsPerSecond) := by
  have instant := instantOf_hasOffset has r
  cases has with
  | utc => simp [toUtc]
  | fixed small =>
    simp only [toUtc, instant]
    exact inside.checked

theorem ofUtc_ok {wall : Int} (has : z.HasOffset offset) (inside : InCalendar wall) :
    z.ofUtc (wall - offset * microsPerSecond) = .ok ⟨wall, false⟩ := by
  cases has with
  | utc => simp [ofUtc]
  | fixed small => simp [ofUtc, inside.checked, Except.map]

theorem resolve_ok (has : z.HasOffset offset) (inside : InCalendar r.wall)
    (inside' : InCalendar (r.wall - offset * microsPerSecond)) : z.resolve r = .ok r := by
  have there := toUtc_ok has inside'
  have back := ofUtc_ok has inside
  cases has with
  | utc => rfl
  | fixed small => simp [resolve, there, back, bind, Except.bind, pure, Except.pure]

/-- A clock that is a day or more off shows nothing; the others show what the calendar has on both
clocks. -/
theorem shows_iff (ahead : z.IsAhead offset) : z.Shows utc ↔
    z.HasOffset offset ∧ InCalendar utc ∧ InCalendar (utc + offset * microsPerSecond) := by
  constructor
  · rintro ⟨inside, r, shown, back⟩
    have first := (checkWall_ok.mp inside).1
    cases ahead with
    | utc => exact ⟨.utc, first, by simpa using show InCalendar utc from first⟩
    | fixed =>
      obtain ⟨wall, checked, rfl⟩ := map_ok.mp shown
      obtain ⟨second, rfl⟩ := checkWall_ok.mp checked
      have small : offset.natAbs < 86400 := by
        by_contra far
        exact DateMath.not_toUtc far _ _ back
      exact ⟨.fixed small, first, second⟩
  · rintro ⟨has, first, second⟩
    have shown := ofUtc_ok has second
    have back := toUtc_ok (r := ⟨utc + offset * microsPerSecond, false⟩) has (by simpa using first)
    simp only [Int.add_sub_cancel] at shown back
    exact ⟨first.checked, _, shown, back⟩

/-- Between two instants shown, every instant is. -/
theorem Shows.between {first last : Int} (start : z.Shows first) (stop : z.Shows last)
    (le : first ≤ utc) (le' : utc ≤ last) (ahead : z.IsAhead offset) : z.Shows utc := by
  obtain ⟨has, inside, inside'⟩ := (shows_iff ahead).mp start
  obtain ⟨-, last, last'⟩ := (shows_iff ahead).mp stop
  exact (shows_iff ahead).mpr
    ⟨has, inside.between last le le', inside'.between last' (by omega) (by omega)⟩

end Zone

/-! Units on a clock -/

def millisPerDay : Int := 86400000

/-- The date of a time in milliseconds of a clock. -/
def dateOfMillis (millis : Int) : Date := .ofDayNumber (millis / millisPerDay)

namespace TimeUnit

/-- The distance of the times at which a unit can begin, in milliseconds. Months and years have no
length of their own, but begin on days. -/
def millis : TimeUnit → Int
  | week => 7 * millisPerDay
  | year | month | day => millisPerDay
  | hour => 3600000
  | minute => 60000
  | second => 1000

/-- Weeks begin on Mondays, three days before the first day of 1970. -/
def phase : TimeUnit → Int
  | .week => -3 * millisPerDay
  | _ => 0

/-- Where the unit that contains a time begins, in milliseconds of a clock. -/
def startOf (unit : TimeUnit) (time : Int) : Int :=
  match unit with
  | .year | .month => (unit.firstDay (dateOfMillis time)).dayNumber * millisPerDay
  | .week | .day | .hour | .minute | .second =>
    (time - unit.phase) / unit.millis * unit.millis + unit.phase

/-- Where the unit after the one that contains a time begins. -/
def nextOf (unit : TimeUnit) (time : Int) : Int :=
  match unit with
  | .year | .month => (unit.dayAfter (dateOfMillis time)).dayNumber * millisPerDay
  | .week | .day | .hour | .minute | .second => unit.startOf time + unit.millis

end TimeUnit

/-! The unit that contains a time -/

theorem january (year : Int) : firstOfMonth (12 * year) = ⟨year, 1, 1⟩ := by
  simp only [firstOfMonth, Date.mk.injEq, and_true]
  exact ⟨by omega, by omega⟩

/-- The month of a time has begun by then, and the next one has not. -/
theorem dateOfMillis_spec (time : Int) :
    let d := dateOfMillis time
    1 ≤ d.month ∧ d.month ≤ 12 ∧ monthStart d.monthIndex * millisPerDay ≤ time ∧
      time < monthStart (d.monthIndex + 1) * millisPerDay := by
  intro d
  obtain ⟨first, last, began, positive, ends⟩ := ofDayNumber_spec (time / millisPerDay)
  change monthStart d.monthIndex + d.day = _ at began
  change 1 ≤ d.day at positive
  change _ < monthStart (d.monthIndex + 1) at ends
  simp only [millisPerDay] at *
  exact ⟨first, last, by omega, by omega⟩

theorem monthIndex_unique {time first last : Int} (begun : monthStart first * millisPerDay ≤ time)
    (ongoing : time < monthStart last * millisPerDay) :
    first ≤ (dateOfMillis time).monthIndex ∧ (dateOfMillis time).monthIndex < last := by
  obtain ⟨-, -, began, ends⟩ := dateOfMillis_spec time
  simp only [millisPerDay] at *
  have before : monthStart first < monthStart ((dateOfMillis time).monthIndex + 1) := by omega
  have after : monthStart (dateOfMillis time).monthIndex < monthStart last := by omega
  rw [monthStart_lt_iff] at before after
  exact ⟨by omega, after⟩

theorem year_eq (time : Int) :
    (dateOfMillis time).year = (dateOfMillis time).monthIndex / 12 := by
  obtain ⟨first, last, -, -⟩ := dateOfMillis_spec time
  simp only [Date.monthIndex]
  omega

namespace TimeUnit

theorem startOf_year (time : Int) : year.startOf time =
    monthStart (12 * ((dateOfMillis time).monthIndex / 12)) * millisPerDay := by
  rw [← year_eq, monthStart, january]
  rfl

theorem nextOf_year (time : Int) : year.nextOf time =
    monthStart (12 * ((dateOfMillis time).monthIndex / 12 + 1)) * millisPerDay := by
  rw [← year_eq, monthStart, january]
  rfl

theorem startOf_month (time : Int) : month.startOf time =
    monthStart (dateOfMillis time).monthIndex * millisPerDay := by
  obtain ⟨first, last, -, -⟩ := dateOfMillis_spec time
  rw [monthStart, firstOfMonth_monthIndex first last]
  rfl

theorem nextOf_month (time : Int) : month.nextOf time =
    monthStart ((dateOfMillis time).monthIndex + 1) * millisPerDay := rfl

theorem startOf_le (unit : TimeUnit) (time : Int) : unit.startOf time ≤ time := by
  obtain ⟨-, -, began, -⟩ := dateOfMillis_spec time
  cases unit with
  | year =>
    have earlier : monthStart (12 * ((dateOfMillis time).monthIndex / 12)) ≤
        monthStart (dateOfMillis time).monthIndex := monthStart_le_iff.mpr (by omega)
    rw [startOf_year]
    simp only [millisPerDay] at *
    omega
  | month => rwa [startOf_month]
  | week | day | hour | minute | second =>
    simp only [startOf, phase, millis, millisPerDay]
    omega

theorem lt_nextOf (unit : TimeUnit) (time : Int) : time < unit.nextOf time := by
  obtain ⟨-, -, -, ends⟩ := dateOfMillis_spec time
  cases unit with
  | year =>
    have later : monthStart ((dateOfMillis time).monthIndex + 1) ≤
        monthStart (12 * ((dateOfMillis time).monthIndex / 12 + 1)) :=
      monthStart_le_iff.mpr (by omega)
    rw [nextOf_year]
    simp only [millisPerDay] at *
    omega
  | month => rwa [nextOf_month]
  | week | day | hour | minute | second =>
    simp only [nextOf, startOf, phase, millis, millisPerDay]
    omega

/-- All times of a unit are in the same one. -/
theorem sameUnit {unit : TimeUnit} {time other : Int} (begun : unit.startOf time ≤ other)
    (ongoing : other < unit.nextOf time) :
    unit.startOf other = unit.startOf time ∧ unit.nextOf other = unit.nextOf time := by
  cases unit with
  | year =>
    rw [startOf_year] at begun
    rw [nextOf_year] at ongoing
    obtain ⟨first, last⟩ := monthIndex_unique begun ongoing
    have same : (dateOfMillis other).monthIndex / 12 = (dateOfMillis time).monthIndex / 12 := by
      omega
    simp only [startOf_year, nextOf_year, same, and_self]
  | month =>
    rw [startOf_month] at begun
    rw [nextOf_month] at ongoing
    obtain ⟨first, last⟩ := monthIndex_unique begun ongoing
    have same : (dateOfMillis other).monthIndex = (dateOfMillis time).monthIndex := by omega
    simp only [startOf_month, nextOf_month, same, and_self]
  | week | day | hour | minute | second =>
    simp only [nextOf, startOf, phase, millis, millisPerDay] at *
    omega

end TimeUnit

namespace DateMath

theorem dateOfWall_millis (wall : Int) : dateOfWall wall = dateOfMillis (wall / 1000) := by
  have day : dayOfWall wall = wall / 1000 / millisPerDay := by
    simp only [dayOfWall, millisPerDay, microsPerDay, microsPerSecond]
    omega
  rw [dateOfWall, day, dateOfMillis]

theorem midnight_millis (d : Date) : d.midnight = d.dayNumber * millisPerDay * 1000 := by
  simp only [Date.midnight, millisPerDay, microsPerDay, microsPerSecond]
  omega

theorem floorWall_startOf (unit : TimeUnit) (wall : Int) :
    floorWall unit wall = unit.startOf (wall / 1000) * 1000 := by
  cases unit with
  | year | month =>
    rw [floorWall_firstDay rfl, dateOfWall_millis, midnight_millis]
    rfl
  | week | day | hour | minute | second =>
    simp only [floorWall, TimeUnit.startOf, TimeUnit.phase, TimeUnit.millis, TimeUnit.micros,
      dayOfWall, weekday, millisPerDay, microsPerDay, microsPerSecond]
    omega

theorem shiftWall_nextOf {unit : TimeUnit} {wall : Int}
    (inside : InCalendar (unit.nextOf (wall / 1000) * 1000)) :
    shiftWall 1 unit (floorWall unit wall) = .ok (unit.nextOf (wall / 1000) * 1000) := by
  cases unit with
  | year | month =>
    rw [TimeUnit.nextOf, ← dateOfWall_millis, ← midnight_millis] at inside ⊢
    have moved := shiftWall_firstDay rfl wall Int.le_rfl (by decide)
      (by rw [Int.add_zero]; exact inside.1) (by rw [Int.add_zero]; exact inside.2)
    rw [Int.add_zero, Int.add_zero, ← floorWall_firstDay rfl] at moved
    exact moved
  | week | day | hour | minute | second =>
    rw [floorWall_startOf]
    simp only [shiftWall, TimeUnit.nextOf, TimeUnit.millis, millisPerDay, TimeUnit.micros,
      microsPerDay, microsPerSecond, Except.ok.injEq]
    omega

section Steady
variable {z : Zone} {offset wall later : Int} {unit : TimeUnit}

theorem round_down_steady (has : z.HasOffset offset) (inside : InCalendar (floorWall unit wall))
    (inside' : InCalendar (floorWall unit wall - offset * microsPerSecond)) :
    Anchor.round ⟨z, ⟨wall, false⟩⟩ false unit = .ok ⟨z, ⟨floorWall unit wall, false⟩⟩ := by
  have floored : floorReading unit ⟨wall, false⟩ = .ok ⟨floorWall unit wall, false⟩ := by
    cases unit with
    | week => exact map_ok.mpr ⟨_, inside.checked, rfl⟩
    | year | month | day | hour | minute | second => rfl
  have resolved := Zone.resolve_ok (r := ⟨floorWall unit wall, false⟩) has inside inside'
  refine bind_ok.mpr ⟨_, bind_ok.mpr ⟨_, floored, resolved⟩, rfl⟩

theorem shift_steady {amount : Int} (has : z.HasOffset offset)
    (moved : shiftWall amount unit wall = .ok later)
    (inside' : InCalendar (wall - offset * microsPerSecond)) (next : InCalendar later)
    (next' : InCalendar (later - offset * microsPerSecond)) :
    Anchor.shift ⟨z, ⟨wall, false⟩⟩ amount unit = .ok ⟨z, ⟨later, false⟩⟩ := by
  cases unit with
  | year | month | week | day =>
    rw [shift_calendar (by rfl) moved next.checked]
    exact bind_ok.mpr ⟨_, Zone.resolve_ok has next next', rfl⟩
  | hour | minute | second =>
    cases moved
    -- The way through UTC takes the offset off and puts the same one back.
    have there := Zone.toUtc_ok (r := ⟨wall, false⟩) has inside'
    have back := Zone.ofUtc_ok has next
    rw [add_sub_right_comm] at next' back
    exact bind_ok.mpr ⟨_, there, bind_ok.mpr ⟨_, next'.checked, bind_ok.mpr ⟨_, back, rfl⟩⟩⟩

theorem round_up_steady (has : z.HasOffset offset) (inside : InCalendar (floorWall unit wall))
    (inside' : InCalendar (floorWall unit wall - offset * microsPerSecond))
    (moved : shiftWall 1 unit (floorWall unit wall) = .ok later) (next : InCalendar later)
    (next' : InCalendar (later - offset * microsPerSecond))
    (last : InCalendar (later - offset * microsPerSecond - 1000)) :
    Anchor.round ⟨z, ⟨wall, false⟩⟩ true unit =
      .ok ⟨.utc, ⟨later - offset * microsPerSecond - 1000, false⟩⟩ := by
  obtain ⟨floor, floored, same⟩ := bind_ok.mp (round_down_steady has inside inside')
  cases same
  have shifted := shift_steady has moved inside' next next'
  have there := Zone.toUtc_ok (r := ⟨later, false⟩) has next'
  refine bind_ok.mpr ⟨_, floored, ?_⟩
  exact bind_ok.mpr ⟨_, shifted, bind_ok.mpr ⟨_, there, bind_ok.mpr ⟨_, last.checked, rfl⟩⟩⟩

end Steady

section Evaluation
variable {zone : Zone} {offset : Int} {unit : TimeUnit} {math : String} {now : Moment}

theorem anchorAt_steady (has : zone.HasOffset offset) (inside : InCalendar now.utc)
    (inside' : InCalendar (now.utc + offset * microsPerSecond)) :
    anchorAt zone now = .ok ⟨zone, ⟨now.utc + offset * microsPerSecond, false⟩⟩ := by
  have shown := Zone.ofUtc_ok has inside'
  rw [Int.add_sub_cancel] at shown
  exact bind_ok.mpr ⟨_, inside.checked, bind_ok.mpr ⟨_, shown, rfl⟩⟩

/-- The first millisecond of the unit that contains a moment, on a clock that is ahead of UTC by so
many seconds. -/
def firstMilli (unit : TimeUnit) (offset millis : Int) : Int :=
  unit.startOf (millis + 1000 * offset) - 1000 * offset

/-- The last millisecond of the unit that contains a moment. -/
def lastMilli (unit : TimeUnit) (offset millis : Int) : Int :=
  unit.nextOf (millis + 1000 * offset) - 1000 * offset - 1

theorem firstMilli_le (unit : TimeUnit) (offset millis : Int) :
    firstMilli unit offset millis ≤ millis := by
  have begun := unit.startOf_le (millis + 1000 * offset)
  rw [firstMilli]
  omega

theorem le_lastMilli (unit : TimeUnit) (offset millis : Int) :
    millis ≤ lastMilli unit offset millis := by
  have ongoing := unit.lt_nextOf (millis + 1000 * offset)
  rw [lastMilli]
  omega

/-- All milliseconds of a unit have the same first and the same last one. -/
theorem sameMillis {unit : TimeUnit} {offset millis other : Int}
    (begun : firstMilli unit offset millis ≤ other)
    (ongoing : other ≤ lastMilli unit offset millis) :
    firstMilli unit offset other = firstMilli unit offset millis ∧
      lastMilli unit offset other = lastMilli unit offset millis := by
  rw [firstMilli] at begun
  rw [lastMilli] at ongoing
  have first : unit.startOf (millis + 1000 * offset) ≤ other + 1000 * offset := by omega
  have last : other + 1000 * offset < unit.nextOf (millis + 1000 * offset) := by omega
  obtain ⟨starts, ends⟩ := TimeUnit.sameUnit first last
  simp only [firstMilli, lastMilli, starts, ends, and_self]

theorem millis_onClock (now : Moment) (offset : Int) :
    (now.utc + offset * microsPerSecond) / 1000 = now.epochMillis + 1000 * offset := by
  simp only [Moment.epochMillis, microsPerSecond]
  omega

theorem floorWall_firstMilli (unit : TimeUnit) (offset : Int) (now : Moment) :
    floorWall unit (now.utc + offset * microsPerSecond) =
      firstMilli unit offset now.epochMillis * 1000 + offset * microsPerSecond := by
  rw [floorWall_startOf, millis_onClock, firstMilli]
  simp only [microsPerSecond]
  omega

theorem nextOf_lastMilli (unit : TimeUnit) (offset : Int) (now : Moment) :
    unit.nextOf ((now.utc + offset * microsPerSecond) / 1000) * 1000 =
      (lastMilli unit offset now.epochMillis + 1) * 1000 + offset * microsPerSecond := by
  rw [millis_onClock, lastMilli]
  simp only [microsPerSecond]
  omega

theorem lastMilli_inCalendar {millis : Int}
    (first : InCalendar (firstMilli unit offset millis * 1000))
    (next : InCalendar ((lastMilli unit offset millis + 1) * 1000)) :
    InCalendar (lastMilli unit offset millis * 1000) := by
  have begun := firstMilli_le unit offset millis
  have ongoing := le_lastMilli unit offset millis
  exact first.between next (by omega) (by omega)

theorem evaluate_down (ahead : zone.IsAhead offset)
    (written : Writes (trimRight math.toList) [.round unit]) (shown : zone.Shows now.utc)
    (start : zone.Shows (firstMilli unit offset now.epochMillis * 1000)) :
    evaluate zone now false ("now" ++ math) = .ok (firstMilli unit offset now.epochMillis) := by
  obtain ⟨has, inside, inside'⟩ := (Zone.shows_iff ahead).mp shown
  obtain ⟨-, first, first'⟩ := (Zone.shows_iff ahead).mp start
  have floor := floorWall_firstMilli unit offset now
  have back := Int.add_sub_cancel (firstMilli unit offset now.epochMillis * 1000)
    (offset * microsPerSecond)
  rw [← floor] at first' back
  have rounded := round_down_steady has first' (by rwa [back])
  have value := Zone.instantOf_hasOffset has
    ⟨floorWall unit (now.utc + offset * microsPerSecond), false⟩
  rw [evaluate_round written (anchorAt_steady has inside inside') rounded value, back,
    Int.mul_ediv_cancel _ (by decide)]

theorem evaluate_up (ahead : zone.IsAhead offset)
    (written : Writes (trimRight math.toList) [.round unit]) (shown : zone.Shows now.utc)
    (start : zone.Shows (firstMilli unit offset now.epochMillis * 1000))
    (next : zone.Shows ((lastMilli unit offset now.epochMillis + 1) * 1000)) :
    evaluate zone now true ("now" ++ math) = .ok (lastMilli unit offset now.epochMillis) := by
  obtain ⟨has, inside, inside'⟩ := (Zone.shows_iff ahead).mp shown
  obtain ⟨-, first, first'⟩ := (Zone.shows_iff ahead).mp start
  obtain ⟨-, last, last'⟩ := (Zone.shows_iff ahead).mp next
  have floor := floorWall_firstMilli unit offset now
  have back := Int.add_sub_cancel (firstMilli unit offset now.epochMillis * 1000)
    (offset * microsPerSecond)
  rw [← floor] at first' back
  have ceiling := nextOf_lastMilli unit offset now
  have moved := shiftWall_nextOf (by rwa [ceiling])
  rw [ceiling] at moved
  have later := Int.add_sub_cancel ((lastMilli unit offset now.epochMillis + 1) * 1000)
    (offset * microsPerSecond)
  have millis : (lastMilli unit offset now.epochMillis + 1) * 1000 - 1000 =
      lastMilli unit offset now.epochMillis * 1000 := by omega
  have before := lastMilli_inCalendar first last
  have rounded := round_up_steady has first' (by rwa [back]) moved last' (by rwa [later])
    (by rwa [later, millis])
  rw [later, millis] at rounded
  rw [evaluate_round_up written (anchorAt_steady has inside inside') rounded,
    Int.mul_ediv_cancel _ (by decide)]

/-- Rounding at an offset that never changes. Rounding down leads to the first and rounding up to
the last millisecond of the unit that contains the moment, and does so from every moment between
them, both ends included. -/
theorem evaluate_steady (ahead : zone.IsAhead offset)
    (written : Writes (trimRight math.toList) [.round unit]) (shown : zone.Shows now.utc)
    (start : zone.Shows (firstMilli unit offset now.epochMillis * 1000)) :
    let down := firstMilli unit offset now.epochMillis
    let up := lastMilli unit offset now.epochMillis
    let inYears := zone.Shows ((up + 1) * 1000)
    down ≤ now.epochMillis ∧ now.epochMillis ≤ up ∧
    (evaluate zone now false ("now" ++ math) = .ok down ∧
      evaluate zone ⟨down * 1000, some 0⟩ false ("now" ++ math) = .ok down) ∧
    (inYears → evaluate zone now true ("now" ++ math) = .ok up ∧
      evaluate zone ⟨up * 1000, some 0⟩ true ("now" ++ math) = .ok up) ∧
    ∀ other : Moment, zone.Shows other.utc →
      down ≤ other.epochMillis → other.epochMillis ≤ up →
      evaluate zone other false ("now" ++ math) = .ok down ∧
      (inYears → evaluate zone other true ("now" ++ math) = .ok up) := by
  intro down up inYears
  have begun : down ≤ now.epochMillis := firstMilli_le unit offset now.epochMillis
  have ongoing : now.epochMillis ≤ up := le_lastMilli unit offset now.epochMillis
  have all (other : Moment) (shown : zone.Shows other.utc) (begun : down ≤ other.epochMillis)
      (ongoing : other.epochMillis ≤ up) :
      evaluate zone other false ("now" ++ math) = .ok down ∧
        (inYears → evaluate zone other true ("now" ++ math) = .ok up) := by
    obtain ⟨first, last⟩ := sameMillis begun ongoing
    have start : zone.Shows (firstMilli unit offset other.epochMillis * 1000) := by rwa [first]
    constructor
    · rw [evaluate_down ahead written shown start, first]
    · intro inYears
      rw [evaluate_up ahead written shown start (by rwa [last]), last]
  have millis (value : Int) : Moment.epochMillis ⟨value * 1000, some 0⟩ = value := by
    simp [Moment.epochMillis, Moment.utc]
  have instant (value : Int) : Moment.utc ⟨value * 1000, some 0⟩ = value * 1000 := by
    simp [Moment.utc]
  refine ⟨begun, ongoing, ⟨(all now shown begun ongoing).1, ?_⟩, ?_, all⟩
  · exact (all _ (by rwa [instant]) (by rw [millis]) (by rw [millis]; omega)).1
  · intro inYears
    refine ⟨(all now shown begun ongoing).2 inYears, ?_⟩
    have before : zone.Shows (up * 1000) := start.between inYears (by omega) (by omega) ahead
    exact (all _ (by rwa [instant]) (by rw [millis]; omega) (by rw [millis])).2 inYears

/-- The week of the last microsecond before 1970, on a clock five hours and a half ahead of UTC. -/
theorem week_of_new_year :
    let now : Moment := ⟨-1, some 0⟩
    Zone.IsAhead (.fixed 19800) 19800 ∧ Writes (trimRight "/w".toList) [.round .week] ∧
    Zone.Shows (.fixed 19800) now.utc ∧
    Zone.Shows (.fixed 19800) (firstMilli .week 19800 now.epochMillis * 1000) ∧
    evaluate (.fixed 19800) now false ("now" ++ "/w") = .ok (-279000000) ∧
    evaluate (.fixed 19800) now true ("now" ++ "/w") = .ok 325799999 := by
  intro now
  have ahead : Zone.IsAhead (.fixed 19800) 19800 := .fixed
  have written : Writes (trimRight "/w".toList) [.round .week] := .cons rfl .nil
  have shows (utc : Int) (first : firstWall + microsPerDay ≤ utc)
      (last : utc + microsPerDay ≤ lastWall) : Zone.Shows (.fixed 19800) utc :=
    (Zone.shows_iff ahead).mpr ⟨.fixed (by decide), by
      simp only [InCalendar, microsPerDay, microsPerSecond] at *
      omega⟩
  have shown := shows now.utc (by decide) (by decide)
  have start := shows (firstMilli .week 19800 now.epochMillis * 1000) (by decide) (by decide)
  obtain ⟨-, -, ⟨down, -⟩, up, -⟩ := evaluate_steady ahead written shown start
  exact ⟨ahead, written, shown, start, down, (up (shows _ (by decide) (by decide))).1⟩

end Evaluation

end DateMath

end PortableSearch.Calendar
