import PortableSearch.Proofs.DateMath.Order
import PortableSearch.Proofs.DateMath.SoundZone

/-! Where rounding up ends a calendar unit. The end is found one unit after the beginning. Where the
clock skips the midnight at which a unit begins, rounding down leads past the gap, and the end lies
as far behind the midnight after the unit; elsewhere it is the last millisecond before that. -/
namespace PortableSearch.Calendar

/-- The wall time at which a date begins. -/
def Date.midnight (d : Date) : Int := d.dayNumber * microsPerDay

/-- The instant of a wall time: the earlier one of a wall time that occurs twice, and that after the
gap for one that the clock skips. -/
def Zone.instantAt (z : Zone) (wall : Int) : Except Fault Int :=
  checkWall wall >>= fun w => z.resolve ⟨w, false⟩ >>= z.toUtc

namespace TimeUnit

/-- Units that begin at midnight. -/
def isCalendar : TimeUnit → Bool
  | year | month | week | day => true
  | hour | minute | second => false

/-- The first day of the unit that a date lies in. -/
def firstDay (unit : TimeUnit) (d : Date) : Date :=
  match unit with
  | year => ⟨d.year, 1, 1⟩
  | month => ⟨d.year, d.month, 1⟩
  | week => .ofDayNumber (d.dayNumber - weekday d.dayNumber)
  | day | hour | minute | second => d

/-- The first day of the unit after the one that a date lies in. -/
def dayAfter (unit : TimeUnit) (d : Date) : Date :=
  match unit with
  | year => ⟨d.year + 1, 1, 1⟩
  | month => firstOfMonth (d.monthIndex + 1)
  | week => .ofDayNumber (d.dayNumber - weekday d.dayNumber + 7)
  | day | hour | minute | second => .ofDayNumber (d.dayNumber + 1)

end TimeUnit

namespace DateMath

/-! Units on the wall clock -/

/-- The first day of a month of a year. -/
structure IsFirst (d : Date) : Prop where
  january : 1 ≤ d.month
  december : d.month ≤ 12
  first : d.day = 1

theorem IsFirst.midnight {d : Date} (first : IsFirst d) :
    d.midnight = monthStart d.monthIndex * microsPerDay := by
  obtain ⟨year, month, day⟩ := d
  obtain ⟨january, december, rfl⟩ := first
  rw [Date.midnight, monthStart, firstOfMonth_monthIndex january december]

theorem firstOfMonth_first (index : Int) : IsFirst (firstOfMonth index) :=
  ⟨by simp [firstOfMonth], by simp only [firstOfMonth]; omega, rfl⟩

theorem january_first (year : Int) : IsFirst ⟨year, 1, 1⟩ := ⟨by simp, by simp, rfl⟩

theorem shiftMonths_first {begin next : Date} {months gap : Int} (forward : 0 ≤ gap)
    (short : gap < 28 * microsPerDay) (begins : IsFirst begin) (ends : IsFirst next)
    (later : next.monthIndex = begin.monthIndex + months)
    (first : firstWall ≤ next.midnight + gap) (last : next.midnight + gap ≤ lastWall) :
    shiftMonths months (begin.midnight + gap) = .ok (next.midnight + gap) := by
  rw [ends.midnight, later] at first last ⊢
  rw [begins.midnight]
  exact shiftMonths_ok.mpr ⟨⟨first, last⟩, (monthsLater_inMonth forward short).symm⟩

theorem floorWall_firstDay {unit : TimeUnit} (calendar : unit.isCalendar = true) (wall : Int) :
    floorWall unit wall = (unit.firstDay (dateOfWall wall)).midnight := by
  have midnight : Clock.micros ⟨0, 0, 0, 0⟩ = 0 := rfl
  cases unit with
  | year | month => rw [floorWall, wallOf, midnight, Int.add_zero]; rfl
  | week =>
    simp only [floorWall, TimeUnit.firstDay, Date.midnight, dateOfWall, dayNumber_ofDayNumber]
  | day =>
    simp only [floorWall, TimeUnit.firstDay, Date.midnight, dateOfWall, dayNumber_ofDayNumber,
      dayOfWall, TimeUnit.micros, microsPerDay, microsPerSecond]
    omega
  | hour | minute | second => cases calendar

theorem midnight_later (number days : Int) :
    (Date.ofDayNumber number).midnight + days * microsPerDay =
      (Date.ofDayNumber (number + days)).midnight := by
  simp only [Date.midnight, dayNumber_ofDayNumber, Int.add_mul]

/-- One unit after the beginning of a unit the next one begins, and a time after the one comes as
long after the other. -/
theorem shiftWall_firstDay {unit : TimeUnit} (calendar : unit.isCalendar = true) (wall : Int)
    {gap : Int} (forward : 0 ≤ gap) (short : gap < 28 * microsPerDay)
    (first : firstWall ≤ (unit.dayAfter (dateOfWall wall)).midnight + gap)
    (last : (unit.dayAfter (dateOfWall wall)).midnight + gap ≤ lastWall) :
    shiftWall 1 unit ((unit.firstDay (dateOfWall wall)).midnight + gap) =
      .ok ((unit.dayAfter (dateOfWall wall)).midnight + gap) := by
  obtain ⟨january, december, -, -, -⟩ := ofDayNumber_spec (dayOfWall wall)
  have day : (dateOfWall wall).dayNumber = dayOfWall wall := dayNumber_ofDayNumber _
  rw [← dateOfWall] at january december
  generalize dateOfWall wall = d at *
  cases unit with
  | year =>
    have later : Date.monthIndex ⟨d.year + 1, 1, 1⟩ = Date.monthIndex ⟨d.year, 1, 1⟩ + 12 := by
      simp only [Date.monthIndex]
      omega
    exact shiftMonths_first forward short (january_first _) (january_first _) later first last
  | month =>
    have begins : IsFirst ⟨d.year, d.month, 1⟩ := ⟨january, december, rfl⟩
    exact shiftMonths_first forward short begins (firstOfMonth_first _)
      (monthIndex_firstOfMonth _) first last
  | week =>
    have days := midnight_later (d.dayNumber - weekday d.dayNumber) 7
    simp only [shiftWall, TimeUnit.firstDay, TimeUnit.dayAfter, ← days, TimeUnit.micros,
      Int.one_mul, Int.add_right_comm]
  | day =>
    have days := midnight_later d.dayNumber 1
    have same : (Date.ofDayNumber d.dayNumber).midnight = d.midnight := by
      rw [Date.midnight, dayNumber_ofDayNumber, Date.midnight]
    simp only [shiftWall, TimeUnit.firstDay, TimeUnit.dayAfter, ← days, same, TimeUnit.micros,
      Int.one_mul, Int.add_right_comm]
  | hour | minute | second => cases calendar

end DateMath

/-! Readings of a clock -/

theorem checkWall_ok {wall checked : Int} :
    checkWall wall = .ok checked ↔ (firstWall ≤ wall ∧ wall ≤ lastWall) ∧ wall = checked := by
  unfold checkWall
  split <;> simp [*]

/-- The wall time lies in the calendar. -/
def InCalendar (wall : Int) : Prop := firstWall ≤ wall ∧ wall ≤ lastWall

instance (wall : Int) : Decidable (InCalendar wall) := inferInstanceAs (Decidable (_ ∧ _))

theorem InCalendar.checked {wall : Int} (inside : InCalendar wall) : checkWall wall = .ok wall :=
  checkWall_ok.mpr ⟨inside, rfl⟩

theorem InCalendar.between {first wall last : Int} (start : InCalendar first)
    (stop : InCalendar last) (le : first ≤ wall) (le' : wall ≤ last) : InCalendar wall :=
  ⟨Int.le_trans start.1 le, Int.le_trans le' stop.2⟩

namespace Zone
variable {z : Zone} {r : Reading} {wall instant : Int}

theorem offsetAt_ok {offset : Int} :
    z.offsetAt r = .ok offset ↔ z.statedOffset r = .ok offset ∧ IsShort offset := by
  rw [offsetAt, bind_ok]
  constructor
  · rintro ⟨stated, same, checked⟩
    split at checked
    · cases checked
      exact ⟨same, ‹_›⟩
    · cases checked
  · rintro ⟨same, short⟩
    exact ⟨offset, same, if_pos short⟩

theorem toUtc_seconds (converted : z.toUtc r = .ok instant) :
    ∃ seconds, instant = r.wall + seconds * microsPerSecond := by
  have converts (offset : z.instantOf r >>= checkWall = .ok instant) :
      ∃ seconds, instant = r.wall + seconds * microsPerSecond := by
    obtain ⟨instant', there, checked⟩ := bind_ok.mp offset
    obtain ⟨seconds, -, rfl⟩ := map_ok.mp there
    obtain ⟨-, rfl⟩ := checkWall_ok.mp checked
    exact ⟨-seconds, by rw [Int.neg_mul, Int.sub_eq_add_neg]⟩
  cases z with
  | utc =>
    cases converted
    exact ⟨0, by simp⟩
  | fixed | table | yearly => exact converts converted

theorem instantOf_toUtc (converted : z.toUtc r = .ok instant) : z.instantOf r = .ok instant := by
  cases z with
  | utc =>
    cases converted
    simpa using instantOf_hasOffset .utc r
  | fixed | table | yearly =>
    obtain ⟨instant, found, checked⟩ := bind_ok.mp converted
    obtain ⟨-, rfl⟩ := checkWall_ok.mp checked
    exact found

/-- What a clock shows is the instant with one of its offsets added. -/
theorem ofUtc_offset (shown : z.ofUtc instant = .ok r) :
    ∃ offset, r.wall = instant + offset * microsPerSecond ∧ (z.IsSound → IsShort offset) ∧
      (InCalendar instant → InCalendar r.wall) := by
  cases z with
  | utc =>
    cases shown
    exact ⟨0, by simp, fun _ => by simp [IsShort], id⟩
  | fixed offset =>
    obtain ⟨_, checked, rfl⟩ := map_ok.mp shown
    obtain ⟨inside, rfl⟩ := checkWall_ok.mp checked
    exact ⟨_, rfl, id, fun _ => inside⟩
  | table t =>
    obtain ⟨_, checked, rfl⟩ := map_ok.mp shown
    obtain ⟨inside, rfl⟩ := checkWall_ok.mp checked
    exact ⟨_, rfl, fun sound => ZoneTable.IsSound.offsetAfter sound _, fun _ => inside⟩
  | yearly y =>
    obtain ⟨⟨wall, fold⟩, found, rfl⟩ := map_ok.mp shown
    obtain ⟨changes, -, found⟩ := bind_ok.mp found
    obtain ⟨start, -, found⟩ := bind_ok.mp found
    obtain ⟨stop, -, found⟩ := bind_ok.mp found
    obtain ⟨_, checked, found⟩ := bind_ok.mp found
    obtain ⟨inside, rfl⟩ := checkWall_ok.mp checked
    have short (sound : (Zone.yearly y).IsSound) := YearlyRule.IsSound.offsetIf sound
      (YearlyRule.isBetween start stop instant)
    dsimp only at found
    split at found
    · cases found
      exact ⟨_, rfl, short, fun _ => inside⟩
    · obtain ⟨_, -, found⟩ := bind_ok.mp found
      obtain ⟨_, -, same⟩ := bind_ok.mp found
      cases same
      exact ⟨_, rfl, short, fun _ => inside⟩

/-- UTC keeps every reading. Another zone keeps one that it shows at the instant that the reading
means, and moves others by the difference of the offsets a day later and a day earlier. -/
theorem resolve_cases {moved : Reading} (resolved : z.resolve r = .ok moved) :
    z = .utc ∧ moved = r ∨
    ∃ utc back, z ≠ .utc ∧ z.toUtc r = .ok utc ∧ z.ofUtc utc = .ok back ∧
      (back.wall = r.wall ∧ moved = r ∨
        back.wall ≠ r.wall ∧
        InCalendar (r.wall + microsPerDay) ∧ InCalendar (r.wall - microsPerDay) ∧
        ∃ after before, z.offsetAt ⟨r.wall + microsPerDay, false⟩ = .ok after ∧
          z.offsetAt ⟨r.wall - microsPerDay, false⟩ = .ok before ∧
          InCalendar (r.wall + (after - before) * microsPerSecond) ∧
          moved = ⟨r.wall + (after - before) * microsPerSecond, false⟩) := by
  unfold resolve at resolved
  split at resolved
  · cases resolved
    exact .inl ⟨rfl, rfl⟩
  · rename_i other
    obtain ⟨back, there, resolved⟩ := bind_ok.mp resolved
    obtain ⟨utc, converted, shown⟩ := bind_ok.mp there
    refine .inr ⟨utc, back, other, converted, shown, ?_⟩
    split at resolved
    · cases resolved
      exact .inl ⟨‹_›, rfl⟩
    · rename_i never
      obtain ⟨later, checked, resolved⟩ := bind_ok.mp resolved
      obtain ⟨earlier, checked', resolved⟩ := bind_ok.mp resolved
      obtain ⟨after, stated, resolved⟩ := bind_ok.mp resolved
      obtain ⟨before, stated', resolved⟩ := bind_ok.mp resolved
      obtain ⟨wall, checked'', resolved⟩ := bind_ok.mp resolved
      obtain ⟨next, rfl⟩ := checkWall_ok.mp checked
      obtain ⟨last, rfl⟩ := checkWall_ok.mp checked'
      obtain ⟨inside, rfl⟩ := checkWall_ok.mp checked''
      cases resolved
      exact .inr ⟨never, next, last, after, before, stated, stated', inside, rfl⟩

/-- A gap is shorter than two days, and whole seconds long. -/
theorem resolve_seconds {moved : Reading} (resolved : z.resolve r = .ok moved) :
    ∃ seconds : Int, seconds.natAbs < 2 * 86400 ∧
      moved.wall = r.wall + seconds * microsPerSecond := by
  rcases resolve_cases resolved with ⟨-, rfl⟩ | ⟨_, _, -, -, -, ⟨-, rfl⟩ |
    ⟨-, -, -, after, before, stated, stated', -, rfl⟩⟩
  · exact ⟨0, by simp⟩
  · exact ⟨0, by simp⟩
  · obtain ⟨-, short⟩ := offsetAt_ok.mp stated
    obtain ⟨-, short'⟩ := offsetAt_ok.mp stated'
    rw [IsShort] at short short'
    exact ⟨after - before, by omega, rfl⟩

theorem instantAt_seconds (found : z.instantAt wall = .ok instant) :
    instant ≤ lastWall ∧ ∃ seconds, instant = wall + seconds * microsPerSecond := by
  obtain ⟨inside, checked, found⟩ := bind_ok.mp found
  obtain ⟨r, resolved, converted⟩ := bind_ok.mp found
  obtain ⟨⟨-, last⟩, rfl⟩ := checkWall_ok.mp checked
  constructor
  · cases z with
    | utc =>
      cases resolved
      cases converted
      exact last
    | fixed | table | yearly =>
      obtain ⟨instant', -, checked⟩ := bind_ok.mp converted
      obtain ⟨⟨-, last⟩, rfl⟩ := checkWall_ok.mp checked
      exact last
  · obtain ⟨gap, -, moved⟩ := resolve_seconds resolved
    obtain ⟨seconds, rfl⟩ := toUtc_seconds converted
    exact ⟨gap + seconds, by rw [moved, Int.add_mul, Int.add_assoc]⟩

end Zone

namespace DateMath
variable {zone : Zone} {unit : TimeUnit}

theorem floorReading_wall {r first : Reading} (begins : floorReading unit r = .ok first) :
    first.wall = floorWall unit r.wall := by
  cases unit with
  | week =>
    obtain ⟨wall, checked, rfl⟩ := map_ok.mp begins
    obtain ⟨-, rfl⟩ := checkWall_ok.mp checked
    rfl
  | year | month | day | hour | minute | second =>
    cases begins
    rfl

theorem shift_calendar {a : Anchor} {amount later : Int} (calendar : unit.isCalendar = true)
    (moved : shiftWall amount unit a.reading.wall = .ok later)
    (checked : checkWall later = .ok later) :
    a.shift amount unit = a.zone.resolve ⟨later, false⟩ >>= fun r => .ok ⟨a.zone, r⟩ := by
  cases unit with
  | year | month =>
    simp only [shiftWall] at moved
    simp only [Anchor.shift, moved]
    rfl
  | week | day =>
    cases moved
    simp only [Anchor.shift, checked]
    rfl
  | hour | minute | second => cases calendar

variable {a : Anchor} {first : Reading} {next later : Int}

theorem round_down_ok {last : Anchor} (rounded : a.round false unit = .ok last) :
    ∃ floor moved, floorReading unit a.reading = .ok floor ∧ a.zone.resolve floor = .ok moved ∧
      last = ⟨a.zone, moved⟩ := by
  obtain ⟨moved, found, same⟩ := bind_ok.mp rounded
  obtain ⟨floor, floored, resolved⟩ := bind_ok.mp found
  cases same
  exact ⟨floor, moved, floored, resolved, rfl⟩

/-- Rounding down leads behind the beginning of the unit by whole seconds, and by less than two
days. -/
theorem round_down_seconds (begins : a.round false unit = .ok ⟨zone, first⟩) :
    a.zone = zone ∧ ∃ seconds : Int, seconds.natAbs < 2 * 86400 ∧
      first.wall = floorWall unit a.reading.wall + seconds * microsPerSecond := by
  obtain ⟨beginning, moved, floored, resolved, same⟩ := round_down_ok begins
  cases same
  obtain ⟨seconds, short, moved⟩ := Zone.resolve_seconds resolved
  exact ⟨rfl, seconds, short, by rw [moved, floorReading_wall floored]⟩

/-- Rounding up leads to the millisecond before the instant one unit after where rounding down
leads. -/
theorem round_up_calendar (calendar : unit.isCalendar = true)
    (begins : a.round false unit = .ok ⟨zone, first⟩)
    (moved : shiftWall 1 unit first.wall = .ok next) (found : zone.instantAt next = .ok later)
    (inYears : firstWall + 1000 ≤ later) :
    a.round true unit = .ok ⟨.utc, ⟨later - 1000, false⟩⟩ := by
  obtain ⟨floor, floored, same⟩ := bind_ok.mp begins
  cases same
  obtain ⟨last, -⟩ := Zone.instantAt_seconds found
  obtain ⟨checked, inside, found⟩ := bind_ok.mp found
  obtain ⟨r, resolved, converted⟩ := bind_ok.mp found
  obtain ⟨-, rfl⟩ := checkWall_ok.mp inside
  have shifted : Anchor.shift ⟨a.zone, first⟩ 1 unit = .ok ⟨a.zone, r⟩ := by
    rw [shift_calendar (a := ⟨a.zone, first⟩) calendar moved inside, resolved]
    rfl
  have before : checkWall (later - 1000) = .ok (later - 1000) :=
    checkWall_ok.mpr ⟨by omega, rfl⟩
  rw [Anchor.round, floored]
  simp only [if_true]
  refine bind_ok.mpr ⟨first, rfl, ?_⟩
  refine bind_ok.mpr ⟨⟨a.zone, r⟩, shifted, ?_⟩
  refine bind_ok.mpr ⟨later, converted, ?_⟩
  refine bind_ok.mpr ⟨later - 1000, before, ?_⟩
  rfl

/-- The value of an expression of one rounding. -/
theorem evaluate_one_round {now : Moment} {math : String}
    (written : Writes (trimRight math.toList) [.round unit]) (reached : anchorAt zone now = .ok a)
    (roundUp : Bool) : evaluate zone now roundUp ("now" ++ math) =
      (a.round roundUp unit >>= Anchor.epochMillis).mapError .calendar := by
  have once : a.applyAll roundUp [.round unit] = a.round roundUp unit := bind_pure _
  rw [evaluate_now written, reached, ← once]
  rfl

theorem evaluate_round {now : Moment} {math : String} {roundUp : Bool} {last : Anchor}
    {instant : Int} (written : Writes (trimRight math.toList) [.round unit])
    (reached : anchorAt zone now = .ok a) (rounded : a.round roundUp unit = .ok last)
    (found : last.zone.instantOf last.reading = .ok instant) :
    evaluate zone now roundUp ("now" ++ math) = .ok (instant / 1000) := by
  have once : a.applyAll roundUp [.round unit] = .ok last := bind_ok.mpr ⟨_, rounded, rfl⟩
  exact evaluate_now_ok written reached once found

theorem evaluate_round_up {now : Moment} {math : String} {utc : Int}
    (written : Writes (trimRight math.toList) [.round unit]) (reached : anchorAt zone now = .ok a)
    (rounded : a.round true unit = .ok ⟨.utc, ⟨utc, false⟩⟩) :
    evaluate zone now true ("now" ++ math) = .ok (utc / 1000) := by
  have found := Zone.instantOf_hasOffset .utc ⟨utc, false⟩
  rw [Int.zero_mul, Int.sub_zero] at found
  exact evaluate_round written reached rounded found

/-- Rounding up to a calendar unit. Where rounding down leads behind the midnight at which the unit
begins by a gap, the end of the unit lies as far behind the midnight after it. So it is the last
millisecond before that midnight exactly if both are the same instant, as they are where there is no
gap. -/
theorem evaluate_end_of_unit {now : Moment} {math : String} {gap : Int} {fold : Bool}
    (calendar : unit.isCalendar = true) (written : Writes (trimRight math.toList) [.round unit])
    (reached : anchorAt zone now = .ok a)
    (begins : a.round false unit =
      .ok ⟨zone, ⟨(unit.firstDay (dateOfWall a.reading.wall)).midnight + gap, fold⟩⟩)
    (forward : 0 ≤ gap)
    (found : zone.instantAt ((unit.dayAfter (dateOfWall a.reading.wall)).midnight + gap) =
      .ok later)
    (inYears : firstWall + 1000 ≤ later) :
    let next := (unit.dayAfter (dateOfWall a.reading.wall)).midnight
    ∃ value, evaluate zone now true ("now" ++ math) = .ok value ∧
      zone.instantAt (next + gap) = .ok ((value + 1) * 1000) ∧
      (zone.instantAt next = .ok ((value + 1) * 1000) ↔
        zone.instantAt next = zone.instantAt (next + gap)) := by
  intro next
  obtain ⟨-, seconds, short, floored⟩ := round_down_seconds begins
  rw [floorWall_firstDay calendar] at floored
  have gapSeconds : gap = seconds * microsPerSecond := Int.add_left_cancel floored
  have gapShort : gap < 28 * microsPerDay := by
    simp only [microsPerDay, microsPerSecond] at gapSeconds ⊢
    omega
  obtain ⟨-, passed, same⟩ := Zone.instantAt_seconds found
  obtain ⟨checked, inside, -⟩ := bind_ok.mp found
  obtain ⟨⟨firstNext, lastNext⟩, -⟩ := checkWall_ok.mp inside
  have moved := shiftWall_firstDay calendar a.reading.wall forward gapShort firstNext lastNext
  have rounded := round_up_calendar calendar begins moved found inYears
  -- Midnight, the gap and the offset are whole seconds, so no part of a millisecond is lost.
  have whole : later = ((later - 1000) / 1000 + 1) * 1000 := by
    simp only [Date.midnight, microsPerDay, microsPerSecond] at same gapSeconds
    omega
  refine ⟨(later - 1000) / 1000, evaluate_round_up written reached rounded, ?_, ?_⟩
  · rw [found, ← whole]
  · rw [found, ← whole]

/-- The clock of São Paulo from one summer to the end of the next, which begins with a gap at
midnight of 2018-11-04. -/
def saoPaulo : Zone :=
  .table ⟨-7200, -10800, [⟨1518919200, -10800, -10800⟩, ⟨1541300400, -10800, -7200⟩,
    ⟨1550368800, -10800, -10800⟩]⟩

/-- The day before the clock of São Paulo skips midnight ends where the clock goes on. -/
theorem end_of_day_before_gap :
    let now : Moment := ⟨1541246400000000, some 0⟩
    let a : Anchor := ⟨saoPaulo, ⟨1541235600000000, false⟩⟩
    let next := (TimeUnit.day.dayAfter (dateOfWall a.reading.wall)).midnight
    TimeUnit.day.isCalendar = true ∧ Writes (trimRight "/d".toList) [.round .day] ∧
    anchorAt saoPaulo now = .ok a ∧
    a.round false .day =
      .ok ⟨saoPaulo, ⟨(TimeUnit.day.firstDay (dateOfWall a.reading.wall)).midnight + 0, false⟩⟩ ∧
    (0 : Int) ≤ 0 ∧ saoPaulo.instantAt (next + 0) = .ok 1541300400000000 ∧
    firstWall + 1000 ≤ 1541300400000000 ∧
    ∃ value, evaluate saoPaulo now true ("now" ++ "/d") = .ok value ∧
      saoPaulo.instantAt (next + 0) = .ok ((value + 1) * 1000) ∧
      (saoPaulo.instantAt next = .ok ((value + 1) * 1000) ↔
        saoPaulo.instantAt next = saoPaulo.instantAt (next + 0)) := by
  intro now a next
  have written : Writes (trimRight "/d".toList) [.round .day] := .cons rfl .nil
  have reached : anchorAt saoPaulo now = .ok a := by decide +kernel
  have begins : a.round false .day = .ok ⟨saoPaulo,
      ⟨(TimeUnit.day.firstDay (dateOfWall a.reading.wall)).midnight + 0, false⟩⟩ := by
    decide +kernel
  have found : saoPaulo.instantAt (next + 0) = .ok 1541300400000000 := by decide +kernel
  have inYears : firstWall + 1000 ≤ 1541300400000000 := by decide +kernel
  exact ⟨rfl, written, reached, begins, le_rfl, found, inYears,
    evaluate_end_of_unit rfl written reached begins le_rfl found inYears⟩

/-- The day that begins behind the gap ends an hour late, at one in the morning of the next day. -/
theorem end_of_day_after_gap :
    let now : Moment := ⟨1541332800000000, some 0⟩
    ∃ a, anchorAt saoPaulo now = .ok a ∧
      evaluate saoPaulo now true ("now" ++ "/d") = .ok 1541386799999 ∧
      saoPaulo.instantAt (TimeUnit.day.dayAfter (dateOfWall a.reading.wall)).midnight =
        .ok ((1541383199999 + 1) * 1000) := by
  intro now
  have written : Writes (trimRight "/d".toList) [.round .day] := .cons rfl .nil
  refine ⟨⟨saoPaulo, ⟨1541325600000000, false⟩⟩, by decide +kernel, ?_, by decide +kernel⟩
  rw [evaluate_now written]
  decide +kernel

end DateMath

end PortableSearch.Calendar
