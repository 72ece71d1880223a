import PortableSearch.Proofs.DateMath.ClockChange

/-! Yearly rules with two weeks between their changes and between these and the turn of the year. -/
namespace PortableSearch.Calendar

/-- The wall time at which a year begins. -/
def newYear (year : Int) : Int := Date.midnight ⟨year, 1, 1⟩

theorem newYear_eq (year : Int) : newYear year = monthStart (12 * year) * microsPerDay := by
  rw [monthStart, january]
  rfl

theorem newYear_le {year year' : Int} (le : year ≤ year') : newYear year ≤ newYear year' := by
  have start : monthStart (12 * year) ≤ monthStart (12 * year') :=
    monthStart_le_iff.mpr (by omega)
  rw [newYear_eq, newYear_eq]
  simp only [microsPerDay, microsPerSecond]
  omega

theorem newYear_first : newYear 1 = firstWall := by decide +kernel

theorem newYear_last : newYear 10000 = lastWall + 1 := by decide +kernel

/-- A wall time lies in its year. -/
theorem year_spec (wall : Int) : newYear (dateOfWall wall).year ≤ wall ∧
    wall < newYear ((dateOfWall wall).year + 1) := by
  have started := TimeUnit.startOf_le .year (wall / 1000)
  have ongoing := TimeUnit.lt_nextOf .year (wall / 1000)
  simp only [TimeUnit.startOf, TimeUnit.nextOf, ← DateMath.dateOfWall_millis] at started ongoing
  simp only [newYear, DateMath.midnight_millis]
  change (Date.dayNumber ⟨(dateOfWall wall).year, 1, 1⟩) * millisPerDay ≤ _ at started
  change _ < (Date.dayNumber ⟨(dateOfWall wall).year + 1, 1, 1⟩) * millisPerDay at ongoing
  omega

theorem InCalendar.year {wall : Int} (inside : InCalendar wall) :
    1 ≤ (dateOfWall wall).year ∧ (dateOfWall wall).year ≤ 9999 := by
  obtain ⟨started, ongoing⟩ := year_spec wall
  obtain ⟨first, last⟩ := inside
  constructor
  · by_contra before
    have le : newYear ((dateOfWall wall).year + 1) ≤ newYear 1 := newYear_le (by omega)
    rw [newYear_first] at le
    omega
  · by_contra after
    have le : newYear 10000 ≤ newYear (dateOfWall wall).year := newYear_le (by omega)
    rw [newYear_last] at le
    omega

namespace YearlyRule
variable {r : YearlyRule} {south : Bool} {year start stop wall utc center time : Int} {fold : Bool}

/-- Fourteen days, in microseconds. -/
def twoWeeks : Int := 14 * microsPerDay

/-- The start of daylight time comes two weeks before the stop or, in the south, after it. -/
def Apart (south : Bool) (start stop : Int) : Prop :=
  if south then stop + twoWeeks ≤ start else start + twoWeeks ≤ stop

/-- The changes of a year are apart, and two weeks from its beginning and its end. -/
structure IsYear (r : YearlyRule) (south : Bool) (year start stop : Int) : Prop where
  starts : r.start.wallIn year = .ok start
  stops : r.stop.wallIn year = .ok stop
  apart : Apart south start stop
  begins : newYear year + twoWeeks ≤ start ∧ newYear year + twoWeeks ≤ stop
  ends : start + twoWeeks ≤ newYear (year + 1) ∧ stop + twoWeeks ≤ newYear (year + 1)

/-- Every year has its changes, in the same order, and they move the clock by a day at most. -/
structure IsSpaced (r : YearlyRule) : Prop where
  sound : r.IsSound
  short : (r.daylight - r.standard).natAbs ≤ 86400
  years : ∃ south, ∀ year, 1 ≤ year → year ≤ 9999 → ∃ start stop, r.IsYear south year start stop

/-! Daylight time -/

theorem Apart.sides (apart : Apart south start stop) :
    stop + twoWeeks ≤ start ∨ start + twoWeeks ≤ stop := by
  cases south with
  | false => exact .inr apart
  | true => exact .inl apart

theorem Apart.isBetween_iff (apart : Apart south start stop) (time : Int) :
    isBetween start stop time = true ↔
      if south then time < stop ∨ start ≤ time else start ≤ time ∧ time < stop := by
  simp only [Apart, twoWeeks, microsPerDay, microsPerSecond] at apart
  cases south with
  | false =>
    have before : start < stop := by simp only [Bool.false_eq_true, if_false] at apart; omega
    simp [isBetween, before]
  | true =>
    have after : ¬ start < stop := by simp only [if_true] at apart; omega
    simp only [isBetween, if_neg after, if_true, Bool.not_eq_true', Bool.and_eq_false_iff,
      decide_eq_false_iff_not]
    omega

theorem Apart.isBetween_start (apart : Apart south start stop) (late : start - twoWeeks ≤ time)
    (early : time < start + twoWeeks) : isBetween start stop time = decide (start ≤ time) := by
  rw [Bool.eq_iff_iff, apart.isBetween_iff, decide_eq_true_eq]
  cases south <;> simp [Apart] at * <;> omega

theorem Apart.isBetween_stop (apart : Apart south start stop) (late : stop - twoWeeks ≤ time)
    (early : time < stop + twoWeeks) : isBetween start stop time = decide (¬ stop ≤ time) := by
  rw [Bool.eq_iff_iff, apart.isBetween_iff, decide_eq_true_eq]
  cases south <;> simp [Apart] at * <;> omega

/-- Outside of the changes of a year it is daylight time in the south. -/
theorem Apart.isBetween_past (apart : Apart south start stop) (started : start ≤ time)
    (stopped : stop ≤ time) : isBetween start stop time = south := by
  rw [Bool.eq_iff_iff, apart.isBetween_iff]
  cases south <;> simp <;> omega

theorem Apart.isBetween_ahead (apart : Apart south start stop) (starting : time < start)
    (stopping : time < stop) : isBetween start stop time = south := by
  rw [Bool.eq_iff_iff, apart.isBetween_iff]
  cases south <;> simp <;> omega

theorem isBetween_congr {other : Int} (starts : start ≤ time ↔ start ≤ other)
    (stops : stop ≤ time ↔ stop ≤ other) :
    isBetween start stop time = isBetween start stop other := by
  have starts' : time < start ↔ other < start := by omega
  have stops' : time < stop ↔ other < stop := by omega
  simp only [isBetween, starts, stops, starts', stops']

theorem isBetween_sub (start stop time shift : Int) :
    isBetween (start - shift) (stop - shift) time = isBetween start stop (time + shift) := by
  have order : start - shift < stop - shift ↔ start < stop := by omega
  have starts : start - shift ≤ time ↔ start ≤ time + shift := by omega
  have stops : stop - shift ≤ time ↔ stop ≤ time + shift := by omega
  have before : time < start - shift ↔ time + shift < start := by omega
  have before' : time < stop - shift ↔ time + shift < stop := by omega
  simp only [isBetween, order, starts, stops, before, before']

theorem isRepeated_eq (inside : InCalendar (stop + r.lead)) :
    r.isRepeated stop wall = .ok (stop ≤ wall && wall < stop + r.lead) := by
  unfold isRepeated
  split
  · have before : ¬ stop ≤ wall := by omega
    simp [before]
    rfl
  · have after : stop ≤ wall := by omega
    rw [inside.checked]
    simp [after]

/-- The clock in a year whose changes are known. -/
theorem offsetAt_eq (changes : r.changesAround wall = .ok (start, stop))
    (inside : InCalendar (stop + r.lead)) : r.offsetAt wall fold = .ok (r.offsetIf
      (isBetween start stop wall || (stop ≤ wall && wall < stop + r.lead && !fold))) := by
  refine bind_ok.mpr ⟨_, changes, ?_⟩
  dsimp only
  cases isBetween start stop wall with
  | true => rfl
  | false => exact bind_ok.mpr ⟨_, isRepeated_eq inside, by simp; rfl⟩

/-- The changes of the year of a time are those of the year of a time nearby, or those of the one
year are days ahead and those of the other days past. -/
theorem IsYear.nearby {start' stop' : Int} (here : r.IsYear south year start stop)
    (inYear : (dateOfWall center).year = year)
    (there : r.IsYear south (dateOfWall time).year start' stop') (near : IsNear center time) :
    (start' = start ∧ stop' = stop) ∨
    (time + 9 * microsPerDay < start' ∧ time + 9 * microsPerDay < stop' ∧
      start + 9 * microsPerDay < time ∧ stop + 9 * microsPerDay < time) ∨
    (start' + 9 * microsPerDay ≤ time ∧ stop' + 9 * microsPerDay ≤ time ∧
      time + 9 * microsPerDay ≤ start ∧ time + 9 * microsPerDay ≤ stop) := by
  obtain ⟨started, ongoing⟩ := year_spec center
  obtain ⟨started', ongoing'⟩ := year_spec time
  rw [inYear] at started ongoing
  obtain ⟨starts, stops, -, begins, ends⟩ := here
  obtain ⟨starts', stops', -, begins', ends'⟩ := there
  rcases lt_trichotomy year (dateOfWall time).year with later | same | earlier
  · have turn : newYear (year + 1) ≤ newYear (dateOfWall time).year := newYear_le later
    simp only [IsNear, twoWeeks, microsPerDay, microsPerSecond] at *
    right
    left
    omega
  · rw [← same] at starts' stops'
    cases starts.symm.trans starts'
    cases stops.symm.trans stops'
    exact .inl ⟨rfl, rfl⟩
  · have turn : newYear ((dateOfWall time).year + 1) ≤ newYear year := newYear_le earlier
    simp only [IsNear, twoWeeks, microsPerDay, microsPerSecond] at *
    right
    right
    omega

theorem IsYear.isBetween {start' stop' : Int} (shift : Int) (here : r.IsYear south year start stop)
    (inYear : (dateOfWall center).year = year)
    (there : r.IsYear south (dateOfWall time).year start' stop') (near : IsNear center time)
    (early : -microsPerDay < shift) (late : shift < microsPerDay) :
    isBetween (start' - shift) (stop' - shift) time =
      isBetween (start - shift) (stop - shift) time := by
  rw [isBetween_sub, isBetween_sub]
  rcases here.nearby inYear there near with ⟨rfl, rfl⟩ | ⟨starting, stopping, started, stopped⟩ |
    ⟨started, stopped, starting, stopping⟩
  · rfl
  · rw [there.apart.isBetween_ahead (by omega) (by omega),
      here.apart.isBetween_past (by omega) (by omega)]
  · rw [there.apart.isBetween_past (by omega) (by omega),
      here.apart.isBetween_ahead (by omega) (by omega)]

/-- The changes of a year of the calendar are at least two weeks from its ends. -/
theorem IsYear.inCalendar (here : r.IsYear south year start stop) (first : 1 ≤ year)
    (last : year ≤ 9999) (time : Int)
    (near : (start - twoWeeks ≤ time ∧ time < start + twoWeeks) ∨
      (stop - twoWeeks ≤ time ∧ time < stop + twoWeeks)) : InCalendar time := by
  have begins : newYear 1 ≤ newYear year := newYear_le first
  have ends : newYear (year + 1) ≤ newYear 10000 := newYear_le (by omega)
  obtain ⟨_, _⟩ := here.begins
  obtain ⟨_, _⟩ := here.ends
  rw [newYear_first] at begins
  rw [newYear_last] at ends
  constructor <;> omega

theorem IsSpaced.lead_short (spaced : r.IsSpaced) :
    -microsPerDay ≤ r.lead ∧ r.lead ≤ microsPerDay := by
  have short := spaced.short
  simp only [lead, microsPerDay, microsPerSecond]
  omega

theorem IsSpaced.not_repeated (spaced : r.IsSpaced)
    (far : wall < stop ∨ stop + microsPerDay ≤ wall) :
    (decide (stop ≤ wall) && decide (wall < stop + r.lead)) = false := by
  obtain ⟨-, late⟩ := spaced.lead_short
  simp
  omega

section Spaced
variable (spaced : r.IsSpaced)
  (years : ∀ year, 1 ≤ year → year ≤ 9999 → ∃ start stop, r.IsYear south year start stop)
  (here : r.IsYear south (dateOfWall center).year start stop)
include spaced years

theorem IsSpaced.repeated (inside : InCalendar wall) : ∃ start stop repeated,
    r.changesAround wall = .ok (start, stop) ∧ r.isRepeated stop wall = .ok repeated := by
  obtain ⟨early, late⟩ := spaced.lead_short
  obtain ⟨first, last⟩ := inside.year
  obtain ⟨start, stop, there⟩ := years _ first last
  have ends : InCalendar (stop + r.lead) := there.inCalendar first last _
    (.inr (by simp only [twoWeeks, microsPerDay, microsPerSecond] at *; omega))
  have changes : r.changesAround wall = .ok (start, stop) :=
    bind_ok.mpr ⟨_, there.starts, bind_ok.mpr ⟨_, there.stops, rfl⟩⟩
  exact ⟨start, stop, _, changes, isRepeated_eq ends⟩

include here

/-- What the clock means around a time, said with the changes of the year of that time. -/
theorem IsSpaced.offsetAt (inside : InCalendar wall) (near : IsNear center wall) :
    r.offsetAt wall fold = .ok (r.offsetIf
      (isBetween start stop wall || (stop ≤ wall && wall < stop + r.lead && !fold))) := by
  obtain ⟨early, late⟩ := spaced.lead_short
  obtain ⟨first, last⟩ := inside.year
  obtain ⟨start', stop', there⟩ := years _ first last
  have changes : r.changesAround wall = .ok (start', stop') :=
    bind_ok.mpr ⟨_, there.starts, bind_ok.mpr ⟨_, there.stops, rfl⟩⟩
  have ends : InCalendar (stop' + r.lead) := there.inCalendar first last _
    (.inr (by simp only [twoWeeks, microsPerDay, microsPerSecond] at *; omega))
  have between := here.isBetween 0 rfl there near (by decide) (by decide)
  have repeats : (decide (stop' ≤ wall) && decide (wall < stop' + r.lead)) =
      (decide (stop ≤ wall) && decide (wall < stop + r.lead)) := by
    have sides := here.nearby rfl there near
    rw [Bool.eq_iff_iff]
    simp only [Bool.and_eq_true, decide_eq_true_eq, microsPerDay, microsPerSecond] at *
    omega
  simp only [Int.sub_zero] at between
  rw [offsetAt_eq changes ends, between, repeats]

theorem IsSpaced.ofUtc (inside : InCalendar utc) (near : IsNear center utc) :
    ∃ fold, (Zone.yearly r).ofUtc utc = (checkWall (utc + r.offsetIf (isBetween
      (start - r.standard * microsPerSecond) (stop - r.standard * microsPerSecond) utc) *
        microsPerSecond)).map (⟨·, fold⟩) := by
  obtain ⟨early, late⟩ := IsShort.micros spaced.sound.standard
  obtain ⟨first, last⟩ := inside.year
  obtain ⟨start', stop', there⟩ := years _ first last
  have changes : r.changesAround utc = .ok (start', stop') :=
    bind_ok.mpr ⟨_, there.starts, bind_ok.mpr ⟨_, there.stops, rfl⟩⟩
  have starts : InCalendar (start' - r.standard * microsPerSecond) := there.inCalendar first last _
    (.inl (by simp only [twoWeeks, microsPerDay, microsPerSecond] at *; omega))
  have stops : InCalendar (stop' - r.standard * microsPerSecond) := there.inCalendar first last _
    (.inr (by simp only [twoWeeks, microsPerDay, microsPerSecond] at *; omega))
  have between := here.isBetween (r.standard * microsPerSecond) rfl there near early late
  simp only [Zone.ofUtc, YearlyRule.ofUtc, changes, bind, Except.bind, starts.checked,
    stops.checked, between]
  generalize YearlyRule.isBetween _ _ utc = daylight
  by_cases inside' : InCalendar (utc + r.offsetIf daylight * microsPerSecond)
  · obtain ⟨_, _, repeated, changes', stretch⟩ := spaced.repeated years inside'
    cases daylight with
    | true => exact ⟨false, by simp only [inside'.checked]; rfl⟩
    | false => exact ⟨repeated, by simp only [inside'.checked, changes', stretch]; rfl⟩
  · have beyond : checkWall (utc + r.offsetIf daylight * microsPerSecond) =
        .error .beyondCalendar := if_neg inside'
    exact ⟨false, by simp only [beyond]; rfl⟩

end Spaced

/-- The change of the clock at the start of daylight time. -/
def startChange (r : YearlyRule) (start : Int) : ClockChange where
  instant := start - r.standard * microsPerSecond
  before := r.standard * microsPerSecond
  after := r.daylight * microsPerSecond
  first := start
  second := start

/-- The change of the clock at the end of daylight time. -/
def stopChange (r : YearlyRule) (stop : Int) : ClockChange where
  instant := stop - r.standard * microsPerSecond
  before := r.daylight * microsPerSecond
  after := r.standard * microsPerSecond
  first := max stop (stop + r.lead)
  second := stop

theorem IsSpaced.startChange (spaced : r.IsSpaced) (start : Int) :
    (r.startChange start).IsPlain where
  order := le_rfl
  before := spaced.sound.standard.micros
  after := spaced.sound.daylight.micros
  forward forward := by
    obtain ⟨early, late⟩ := spaced.lead_short
    refine ⟨rfl, ?_⟩
    simp only [YearlyRule.startChange, lead, microsPerDay, microsPerSecond] at *
    omega

theorem IsSpaced.stopChange (spaced : r.IsSpaced) (stop : Int) : (r.stopChange stop).IsPlain where
  order := le_max_left _ _
  before := spaced.sound.daylight.micros
  after := spaced.sound.standard.micros
  forward forward := by
    obtain ⟨early, late⟩ := spaced.lead_short
    simp only [YearlyRule.stopChange, lead, microsPerDay, microsPerSecond] at *
    omega

theorem offsetIf_micros (r : YearlyRule) (p : Prop) [Decidable p] :
    r.offsetIf (decide p) * microsPerSecond =
      if p then r.daylight * microsPerSecond else r.standard * microsPerSecond := by
  by_cases holds : p <;> simp [offsetIf, holds]

section Follows
variable (spaced : r.IsSpaced)
  (years : ∀ year, 1 ≤ year → year ≤ 9999 → ∃ start stop, r.IsYear south year start stop)
  (here : r.IsYear south (dateOfWall center).year start stop)
include spaced years here

theorem IsSpaced.follows_start
    (near : start - 7 * microsPerDay ≤ center ∧ center ≤ start + 7 * microsPerDay) :
    (Zone.yearly r).Follows (r.startChange start) center := by
  have sides := here.apart.sides
  constructor
  · intro reading inside near'
    have around : start - twoWeeks ≤ reading.wall ∧ reading.wall < start + twoWeeks ∧
        (reading.wall < stop ∨ stop + microsPerDay ≤ reading.wall) := by
      simp only [IsNear, twoWeeks, microsPerDay, microsPerSecond] at *
      omega
    have counts : (r.startChange start).countsFrom reading.fold = start := ite_self _
    refine ⟨_, spaced.offsetAt years here inside near', ?_⟩
    rw [spaced.not_repeated around.2.2, here.apart.isBetween_start around.1 around.2.1,
      Bool.false_and, Bool.or_false, offsetIf_micros, ClockChange.offsetAt, counts]
    rfl
  · intro utc inside near'
    obtain ⟨early, late⟩ := spaced.sound.standard.micros
    have around : start - twoWeeks ≤ utc + r.standard * microsPerSecond ∧
        utc + r.standard * microsPerSecond < start + twoWeeks := by
      simp only [IsNear, twoWeeks, microsPerDay, microsPerSecond] at *
      omega
    have same : (r.startChange start).offsetFrom utc =
        if start ≤ utc + r.standard * microsPerSecond then r.daylight * microsPerSecond
        else r.standard * microsPerSecond := if_congr sub_le_iff_le_add rfl rfl
    obtain ⟨fold, shown⟩ := spaced.ofUtc years here inside near'
    rw [isBetween_sub, here.apart.isBetween_start around.1 around.2, offsetIf_micros,
      ← same] at shown
    exact ⟨fold, shown⟩

theorem IsSpaced.follows_stop
    (near : stop - 7 * microsPerDay ≤ center ∧ center ≤ stop + 7 * microsPerDay) :
    (Zone.yearly r).Follows (r.stopChange stop) center := by
  constructor
  · intro reading inside near'
    have around : stop - twoWeeks ≤ reading.wall ∧ reading.wall < stop + twoWeeks := by
      simp only [IsNear, twoWeeks, microsPerDay, microsPerSecond] at *
      omega
    have counts : (r.stopChange stop).countsFrom reading.fold =
        if reading.fold then stop else max stop (stop + r.lead) := rfl
    have ended : (decide (¬ stop ≤ reading.wall) || (stop ≤ reading.wall &&
        reading.wall < stop + r.lead && !reading.fold)) =
          decide (¬ (r.stopChange stop).countsFrom reading.fold ≤ reading.wall) := by
      rw [Bool.eq_iff_iff, counts]
      cases reading.fold with
      | false =>
        simp
        omega
      | true => simp
    refine ⟨_, spaced.offsetAt years here inside near', ?_⟩
    rw [here.apart.isBetween_stop around.1 around.2, ended, offsetIf_micros, ite_not]
    rfl
  · intro utc inside near'
    obtain ⟨early, late⟩ := spaced.sound.standard.micros
    have around : stop - twoWeeks ≤ utc + r.standard * microsPerSecond ∧
        utc + r.standard * microsPerSecond < stop + twoWeeks := by
      simp only [IsNear, twoWeeks, microsPerDay, microsPerSecond] at *
      omega
    have same : (r.stopChange stop).offsetFrom utc =
        if stop ≤ utc + r.standard * microsPerSecond then r.standard * microsPerSecond
        else r.daylight * microsPerSecond := if_congr sub_le_iff_le_add rfl rfl
    obtain ⟨fold, shown⟩ := spaced.ofUtc years here inside near'
    rw [isBetween_sub, here.apart.isBetween_stop around.1 around.2, offsetIf_micros,
      ite_not, ← same] at shown
    exact ⟨fold, shown⟩

/-- Away from the changes the clock keeps the offset that it has at the time itself. -/
theorem IsSpaced.follows_neither
    (far : center < start - 7 * microsPerDay ∨ start + 7 * microsPerDay < center)
    (far' : center < stop - 7 * microsPerDay ∨ stop + 7 * microsPerDay < center) :
    (Zone.yearly r).Follows (.steady (r.offsetIf (isBetween start stop center))) center := by
  constructor
  · intro reading inside near'
    have around : (start ≤ reading.wall ↔ start ≤ center) ∧ (stop ≤ reading.wall ↔ stop ≤ center) ∧
        (reading.wall < stop ∨ stop + microsPerDay ≤ reading.wall) := by
      simp only [IsNear, microsPerDay, microsPerSecond] at *
      omega
    refine ⟨_, spaced.offsetAt years here inside near', ?_⟩
    rw [spaced.not_repeated around.2.2, Bool.false_and, Bool.or_false,
      isBetween_congr around.1 around.2.1, ClockChange.steady_offsetAt]
  · intro utc inside near'
    obtain ⟨early, late⟩ := spaced.sound.standard.micros
    have around : (start ≤ utc + r.standard * microsPerSecond ↔ start ≤ center) ∧
        (stop ≤ utc + r.standard * microsPerSecond ↔ stop ≤ center) := by
      simp only [IsNear, microsPerDay, microsPerSecond] at *
      omega
    obtain ⟨fold, shown⟩ := spaced.ofUtc years here inside near'
    rw [isBetween_sub, isBetween_congr around.1 around.2] at shown
    exact ⟨fold, by rw [shown, ClockChange.steady_offsetFrom]⟩

end Follows

/-- Around every time of the calendar the clock of a spaced rule follows one change. -/
theorem IsSpaced.follows (spaced : r.IsSpaced) (inside : InCalendar center) :
    ∃ c : ClockChange, c.IsPlain ∧ (Zone.yearly r).Follows c center := by
  obtain ⟨south, years⟩ := spaced.years
  obtain ⟨first, last⟩ := inside.year
  obtain ⟨start, stop, here⟩ := years _ first last
  -- The change within a week, if there is one; the other is a week away at least.
  by_cases starting : start - 7 * microsPerDay ≤ center ∧ center ≤ start + 7 * microsPerDay
  · exact ⟨_, spaced.startChange start, spaced.follows_start years here starting⟩
  · by_cases stopping : stop - 7 * microsPerDay ≤ center ∧ center ≤ stop + 7 * microsPerDay
    · exact ⟨_, spaced.stopChange stop, spaced.follows_stop years here stopping⟩
    · have short := spaced.sound.offsetIf (isBetween start stop center)
      exact ⟨_, ClockChange.steady_plain short,
        spaced.follows_neither years here (by omega) (by omega)⟩

end YearlyRule

end PortableSearch.Calendar
