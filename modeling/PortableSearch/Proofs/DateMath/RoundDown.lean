import PortableSearch.Proofs.DateMath.SpacedRule
import PortableSearch.Proofs.DateMath.SpacedTable

/-! When rounding down goes forward. Rounding down leads to the wall time at which the unit begins
and, where the clock skips that, on by the length of the whole gap. A unit that begins within a gap
and not at its beginning so can lead behind the time that is rounded. -/
namespace PortableSearch.Calendar

namespace Zone
variable {z : Zone} {center : Int}

/-- Two weeks lie between the changes of the clock. -/
def IsSpaced : Zone → Prop
  | .utc => True
  | .fixed offset => IsShort offset
  | .table t => t.IsSpaced
  | .yearly r => r.IsSpaced

theorem IsSpaced.sound (spaced : z.IsSpaced) : z.IsSound := by
  cases z with
  | utc => trivial
  | fixed offset => exact spaced
  | table t => exact ZoneTable.IsSpaced.sound spaced
  | yearly r => exact YearlyRule.IsSpaced.sound spaced

theorem HasOffset.follows {offset : Int} (has : z.HasOffset offset) :
    z.Follows (.steady offset) center := by
  constructor
  · intro r _ _
    rw [ClockChange.steady_offsetAt]
    cases has <;> exact ⟨_, rfl, rfl⟩
  · intro utc inside _
    rw [ClockChange.steady_offsetFrom]
    cases has with
    | utc => exact ⟨false, by simp [ofUtc, inside.checked]; rfl⟩
    | fixed => exact ⟨false, rfl⟩

/-- Around every time of the calendar a spaced clock follows one change. -/
theorem IsSpaced.follows (spaced : z.IsSpaced) (inside : InCalendar center) :
    ∃ c : ClockChange, c.IsPlain ∧ z.Follows c center := by
  cases z with
  | utc => exact ⟨_, ClockChange.steady_plain (by simp [IsShort]), HasOffset.utc.follows⟩
  | fixed offset => exact ⟨_, ClockChange.steady_plain spaced, (HasOffset.fixed spaced).follows⟩
  | table t => exact ZoneTable.IsSpaced.follows spaced center
  | yearly r => exact YearlyRule.IsSpaced.follows spaced inside

end Zone

namespace DateMath
variable {zone : Zone} {unit : TimeUnit} {a : Anchor} {r first : Reading} {wall : Int}

theorem floorWall_le_self (unit : TimeUnit) (wall : Int) : floorWall unit wall ≤ wall := by
  have begun := unit.startOf_le (wall / 1000)
  rw [floorWall_startOf]
  omega

/-- A unit of the calendar begins in the calendar, but for the first week. -/
theorem floorReading_inCalendar (inside : InCalendar r.wall)
    (begins : floorReading unit r = .ok first) : InCalendar first.wall := by
  have same := floorReading_wall begins
  have le := floorWall_le_self unit r.wall
  obtain ⟨early, late⟩ := inside
  refine ⟨?_, by omega⟩
  cases unit with
  | week =>
    obtain ⟨wall, checked, rfl⟩ := map_ok.mp begins
    obtain ⟨⟨early', -⟩, rfl⟩ := checkWall_ok.mp checked
    exact early'
  | year | month | day | hour | minute | second =>
    rw [same]
    exact le_trans (by decide +kernel) (floorWall_le _ early)

theorem floorReading_fold (begins : floorReading unit r = .ok first) :
    first.fold = r.fold ∨ first.fold = false := by
  cases unit with
  | week =>
    obtain ⟨wall, -, rfl⟩ := map_ok.mp begins
    exact .inr rfl
  | year | month | day | hour | minute | second =>
    cases begins
    exact .inl rfl

theorem anchorAt_ok {now : Moment} (reached : anchorAt zone now = .ok a) :
    InCalendar now.utc ∧ zone.ofUtc now.utc = .ok a.reading ∧ a.zone = zone := by
  obtain ⟨utc, checked, reached⟩ := bind_ok.mp reached
  obtain ⟨reading, shown, same⟩ := bind_ok.mp reached
  obtain ⟨inside, rfl⟩ := checkWall_ok.mp checked
  cases same
  exact ⟨inside, shown, rfl⟩

section Anchor
variable {now : Moment} (spaced : zone.IsSpaced) (reached : anchorAt zone now = .ok a)
include spaced reached

/-- An anchor lies in the calendar, and less than a day from its instant. -/
theorem anchor_inCalendar : InCalendar a.reading.wall ∧
    now.utc - microsPerDay < a.reading.wall ∧ a.reading.wall < now.utc + microsPerDay := by
  obtain ⟨inside, shown, -⟩ := anchorAt_ok reached
  obtain ⟨-, -, -, stays⟩ := Zone.ofUtc_offset shown
  exact ⟨stays inside, spaced.sound.ofUtc_near shown⟩

/-- An anchor that the clock reads back occurs on it. -/
theorem anchor_occurs {c : ClockChange} {center : Int} (plain : c.IsPlain)
    (follows : zone.Follows c center) (back : zone.instantOf a.reading = .ok now.utc)
    (near : IsNear center now.utc) (near' : IsNear center a.reading.wall) :
    c.Occurs a.reading ∧ c.instantOf a.reading = now.utc := by
  obtain ⟨inside, shown, -⟩ := anchorAt_ok reached
  obtain ⟨inside', -⟩ := anchor_inCalendar spaced reached
  obtain ⟨wall, -⟩ := follows.ofUtc inside near shown
  have meant := follows.instantOf plain inside' near'
  rw [back] at meant
  have same : c.instantOf a.reading = now.utc := (Except.ok.inj meant).symm
  refine ⟨?_, same⟩
  rw [ClockChange.Occurs, same]
  rw [ClockChange.instantOf] at same
  omega

/-- Rounding down goes forward exactly where the clock skips the beginning of the unit and the
anchor lies behind it by less than the gap is long. -/
theorem round_down_forward {last : Anchor} {instant : Int}
    (back : zone.instantOf a.reading = .ok now.utc) (rounded : a.round false unit = .ok last)
    (found : last.zone.instantOf last.reading = .ok instant) :
    let begins := floorWall unit a.reading.wall
    now.utc < instant ↔ ∃ gap, zone.Skips begins gap ∧ a.reading.wall < begins + gap := by
  intro begins
  obtain ⟨-, -, onZone⟩ := anchorAt_ok reached
  obtain ⟨inside, early, late⟩ := anchor_inCalendar spaced reached
  obtain ⟨floor, moved, floored, resolved, rfl⟩ := round_down_ok rounded
  rw [onZone] at resolved found
  have same : floor.wall = begins := floorReading_wall floored
  have le : floor.wall ≤ a.reading.wall := same ▸ floorWall_le_self unit _
  have inside' := floorReading_inCalendar inside floored
  obtain ⟨c, plain, follows⟩ := spaced.follows inside'
  obtain ⟨rfl, inside'', around⟩ := follows.resolve plain inside' resolved
  obtain ⟨moves, moves'⟩ := plain.resolve floor
  have near : IsNear floor.wall (c.resolve floor).wall := by
    simp only [IsNear, microsPerDay, microsPerSecond] at *
    omega
  obtain rfl : c.instantOf (c.resolve floor) = instant :=
    Except.ok.inj ((follows.instantOf plain inside'' near).symm.trans found)
  have skips (gap : Int) : zone.Skips floor.wall gap ↔
      c.Skips floor.wall ∧ gap = c.after - c.before := by
    constructor
    · intro skipped
      exact skipped.change spaced.sound follows
    · rintro ⟨skipped, rfl⟩
      obtain ⟨last, next⟩ := around skipped.not_occurs
      exact skipped.zone follows plain last next
  have gap : (∃ gap, zone.Skips begins gap ∧ a.reading.wall < begins + gap) ↔
      c.Skips floor.wall ∧ a.reading.wall < floor.wall + (c.after - c.before) := by
    simp only [← same, skips]
    constructor
    · rintro ⟨_, ⟨skipped, rfl⟩, behind⟩
      exact ⟨skipped, behind⟩
    · rintro ⟨skipped, behind⟩
      exact ⟨_, ⟨skipped, rfl⟩, behind⟩
  rw [gap]
  by_cases soon : a.reading.wall ≤ floor.wall + 4 * microsPerDay
  · have around' : IsNear floor.wall now.utc ∧ IsNear floor.wall a.reading.wall := by
      simp only [IsNear, microsPerDay, microsPerSecond] at *
      omega
    obtain ⟨occurs, meant⟩ := anchor_occurs spaced reached plain follows back around'.1 around'.2
    rw [← meant]
    exact ClockChange.lt_resolve_iff plain occurs le (floorReading_fold floored)
  · -- No gap and no offset is long enough to make up for four days.
    obtain ⟨short, short'⟩ := plain.offsetAt (c.resolve floor)
    obtain ⟨-, before, after, -⟩ := plain
    simp only [ClockChange.instantOf, microsPerDay, microsPerSecond] at *
    omega

/-- Rounding down on a spaced clock that reads the anchor back. The value is later than the anchor
exactly where the clock skips the beginning of the unit and the anchor lies behind it by less than
the gap is long. -/
theorem evaluate_round_down {math : String}
    (written : Writes (trimRight math.toList) [.round unit])
    (back : zone.instantOf a.reading = .ok now.utc)
    (inYears : InYears (evaluate zone now false ("now" ++ math))) :
    let begins := floorWall unit a.reading.wall
    ∃ value, evaluate zone now false ("now" ++ math) = .ok value ∧
      (now.epochMillis < value ↔
        ∃ gap, zone.Skips begins gap ∧ a.reading.wall < begins + gap) := by
  intro begins
  obtain ⟨-, -, onZone⟩ := anchorAt_ok reached
  have sound : a.zone.IsSound := onZone ▸ spaced.sound
  rw [evaluate_one_round written reached] at inYears ⊢
  obtain ⟨value, result, -⟩ := inYears.result
    ((round_sound sound false unit).bind fun last sound => epochMillis_stays sound)
  obtain ⟨last, rounded, shown⟩ := bind_ok.mp result
  obtain ⟨instant, found, rfl⟩ := map_ok.mp shown
  refine ⟨instant / 1000, by rw [result]; rfl, ?_⟩
  -- The beginning of a unit, a gap and an offset are whole milliseconds.
  have whole : instant = instant / 1000 * 1000 := by
    obtain ⟨-, seconds, -, moved⟩ := round_down_seconds rounded
    obtain ⟨offset, -, rfl⟩ := map_ok.mp found
    rw [floorWall_startOf] at moved
    simp only [microsPerSecond] at *
    omega
  have later : now.epochMillis < instant / 1000 ↔ now.utc < instant := by
    rw [Moment.epochMillis]
    omega
  exact later.trans (round_down_forward spaced reached back rounded found)

end Anchor

/-- The clock of St. John's from one autumn to the next. It was set forward by an hour at a minute
past midnight of 2006-04-02. -/
def stJohnsTable : ZoneTable where
  before := -9000
  standard := -12600
  transitions := [⟨1130639460, -12600, -12600⟩, ⟨1143948660, -12600, -9000⟩,
    ⟨1162089060, -12600, -12600⟩]

theorem stJohns_spaced : stJohnsTable.IsSpaced where
  sound := ⟨by simp [IsShort, stJohnsTable], by simp [IsShort, stJohnsTable],
    by simp [IsShort, stJohnsTable]⟩
  apart := by simp [stJohnsTable]
  lead := by simp [IsShort, stJohnsTable]
  forward := by decide +kernel

/-- The hour after the one that begins in the gap. -/
theorem hour_after_gap :
    let zone : Zone := .table stJohnsTable
    let now : Moment := ⟨1143952800000000, some 0⟩
    let a : Anchor := ⟨zone, ⟨1143943800000000, false⟩⟩
    let begins := floorWall .hour a.reading.wall
    zone.IsSpaced ∧ anchorAt zone now = .ok a ∧ Writes (trimRight "/h".toList) [.round .hour] ∧
    zone.instantOf a.reading = .ok now.utc ∧ InYears (evaluate zone now false ("now" ++ "/h")) ∧
    ∃ value, evaluate zone now false ("now" ++ "/h") = .ok value ∧
      (now.epochMillis < value ↔
        ∃ gap, zone.Skips begins gap ∧ a.reading.wall < begins + gap) := by
  intro zone now a begins
  have spaced : zone.IsSpaced := stJohns_spaced
  have reached : anchorAt zone now = .ok a := by decide +kernel
  have written : Writes (trimRight "/h".toList) [.round .hour] := .cons rfl .nil
  have back : zone.instantOf a.reading = .ok now.utc := by decide +kernel
  have value : evaluate zone now false ("now" ++ "/h") = .ok 1143952200000 := by
    rw [evaluate_now written]
    decide +kernel
  have inYears := InYears.of_ok value
  exact ⟨spaced, reached, written, back, inYears,
    evaluate_round_down spaced reached written back inYears⟩

/-- A minute after the gap the hour begins within it, and rounding down leads to the next hour. -/
theorem hour_in_gap :
    let now : Moment := ⟨1143948720000000, some 0⟩
    evaluate (.table stJohnsTable) now false ("now" ++ "/h") = .ok 1143952200000 ∧
      now.epochMillis < 1143952200000 := by
  intro now
  have written : Writes (trimRight "/h".toList) [.round .hour] := .cons rfl .nil
  constructor
  · rw [evaluate_now written]
    decide +kernel
  · decide +kernel

end DateMath

end PortableSearch.Calendar
