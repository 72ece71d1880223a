import PortableSearch.Proofs.Calendar.MonthShift
import PortableSearch.Proofs.DateMath.Grammar
import PortableSearch.Proofs.DateMath.SteadyRounding

/-! Shifts where the offset from UTC is the same at all times. A shift leads to the wall time that
lies so many units ahead, wherever the calendar has it both on the clock of the zone and in UTC.
Years are twelve months, weeks are seven days or 168 hours, and months keep the day and the time of
day as far as the month is long enough. -/
namespace PortableSearch.Calendar

theorem checkWall_eq (wall : Int) :
    checkWall wall = if InCalendar wall then .ok wall else .error .beyondCalendar := rfl

namespace DateMath

/-- The anchor at a wall time on a clock that is ahead of UTC by the offset. -/
def arrive (z : Zone) (offset wall : Int) : Except Calendar.Fault Anchor :=
  if InCalendar wall ∧ InCalendar (wall - offset * microsPerSecond) then .ok ⟨z, ⟨wall, false⟩⟩
  else .error .beyondCalendar

theorem arrive_ok {z : Zone} {offset wall : Int} {next : Anchor} :
    arrive z offset wall = .ok next ↔ InCalendar wall ∧
      InCalendar (wall - offset * microsPerSecond) ∧ next = ⟨z, ⟨wall, false⟩⟩ := by
  unfold arrive
  split
  · rename_i inside
    simp [inside, eq_comm]
  · rename_i outside
    constructor
    · nofun
    · rintro ⟨inside, inside', -⟩
      exact absurd ⟨inside, inside'⟩ outside

section Steady
variable {z : Zone} {offset wall : Int}

theorem epochMillis_steady (has : z.HasOffset offset) :
    Anchor.epochMillis ⟨z, ⟨wall, false⟩⟩ = .ok ((wall - offset * microsPerSecond) / 1000) :=
  map_ok.mpr ⟨_, Zone.instantOf_hasOffset has ⟨wall, false⟩, rfl⟩

theorem resolve_arrive (has : z.HasOffset offset) (inside : InCalendar wall) :
    (z.resolve ⟨wall, false⟩ >>= fun r => .ok (⟨z, r⟩ : Anchor)) = arrive z offset wall := by
  by_cases inside' : InCalendar (wall - offset * microsPerSecond)
  · rw [Zone.resolve_ok (r := ⟨wall, false⟩) has inside inside', arrive, if_pos ⟨inside, inside'⟩]
    rfl
  · rw [arrive, if_neg fun both => inside' both.2]
    cases has with
    | utc =>
      rw [Int.zero_mul, Int.sub_zero] at inside'
      exact absurd inside inside'
    | fixed small =>
      have instant := Zone.instantOf_hasOffset (.fixed small) ⟨wall, false⟩
      simp [Zone.resolve, Zone.toUtc, instant, checkWall_eq, inside', bind, Except.bind]

/-- A shift by months succeeds where the calendar has the wall time it leads to and its instant. -/
theorem months_arrive (has : z.HasOffset offset) {months millis : Int} :
    (shiftMonths months wall >>= arrive z offset >>= Anchor.epochMillis) = .ok millis ↔
      (InCalendar (monthsLater months wall) ∧
        InCalendar (monthsLater months wall - offset * microsPerSecond)) ∧
      millis = (monthsLater months wall - offset * microsPerSecond) / 1000 := by
  rw [bind_ok]
  constructor
  · rintro ⟨next, moved, found⟩
    obtain ⟨_, moved, arrived⟩ := bind_ok.mp moved
    obtain ⟨-, rfl⟩ := shiftMonths_ok.mp moved
    obtain ⟨first, last, rfl⟩ := arrive_ok.mp arrived
    rw [epochMillis_steady has] at found
    exact ⟨⟨first, last⟩, (Except.ok.inj found).symm⟩
  · rintro ⟨⟨first, last⟩, rfl⟩
    exact ⟨_, bind_ok.mpr ⟨_, shiftMonths_ok.mpr ⟨first, rfl⟩, arrive_ok.mpr ⟨first, last, rfl⟩⟩,
      epochMillis_steady has⟩

theorem shiftWall_week (amount wall : Int) :
    shiftWall amount .week wall = shiftWall (7 * amount) .day wall ∧
      shiftWall amount .week wall = shiftWall (168 * amount) .hour wall := by
  simp only [shiftWall, TimeUnit.micros, microsPerDay, microsPerSecond, Except.ok.injEq]
  omega

/-- Every shift leads to the wall time so many units ahead. -/
theorem shift_arrives (has : z.HasOffset offset)
    (inside' : InCalendar (wall - offset * microsPerSecond)) (amount : Int) (unit : TimeUnit) :
    Anchor.shift ⟨z, ⟨wall, false⟩⟩ amount unit =
      shiftWall amount unit wall >>= arrive z offset := by
  have onClock (wall : Int) : (checkWall wall >>= fun w => z.resolve ⟨w, false⟩ >>= fun r =>
      .ok (⟨z, r⟩ : Anchor)) = arrive z offset wall := by
    by_cases inside : InCalendar wall
    · rw [inside.checked, ← resolve_arrive has inside]
      rfl
    · rw [checkWall_eq, if_neg inside, arrive, if_neg fun both => inside both.1]
      rfl
  have months (count : Int) : (shiftMonths count wall >>= fun w =>
      z.resolve ⟨w, false⟩ >>= fun r => .ok (⟨z, r⟩ : Anchor)) =
        shiftMonths count wall >>= arrive z offset := by
    cases moved : shiftMonths count wall with
    | error fault => rfl
    | ok later => exact resolve_arrive has (shiftMonths_ok.mp moved).1
  -- On the timeline the instant is checked before the wall time and not after it.
  have onTimeline (span : Int) : (z.toUtc ⟨wall, false⟩ >>= fun utc => checkWall (utc + span) >>=
      fun utc => z.ofUtc utc >>= fun r => .ok (⟨z, r⟩ : Anchor)) =
        arrive z offset (wall + span) := by
    have there := Zone.toUtc_ok (r := ⟨wall, false⟩) has inside'
    have instant : wall - offset * microsPerSecond + span =
        wall + span - offset * microsPerSecond := by omega
    rw [there]
    simp only [bind, Except.bind, instant, checkWall_eq, arrive]
    by_cases first : InCalendar (wall + span - offset * microsPerSecond)
    · by_cases last : InCalendar (wall + span)
      · simp [first, last, Zone.ofUtc_ok has last]
      · cases has with
        | utc =>
          rw [Int.zero_mul, Int.sub_zero] at first
          exact absurd first last
        | fixed small => simp [first, last, Zone.ofUtc, checkWall_eq, Except.map]
    · simp [first]
  cases unit with
  | year | month => exact months _
  | week | day => exact onClock _
  | hour | minute | second => exact onTimeline _

end Steady

/-! Expressions -/

/-- An expression means an anchor with operations after it. -/
def Expresses (zone : Zone) (now : Moment) (expression : String) (a : Anchor)
    (ops : List Operation) : Prop :=
  ∃ math, Starts zone now (Text.trimEnds Text.isBlank expression.toList) a math ∧ Writes math ops

theorem evaluate_expresses {zone : Zone} {now : Moment} {expression : String} {a : Anchor}
    {ops : List Operation} (expresses : Expresses zone now expression a ops) (roundUp : Bool) :
    evaluate zone now roundUp expression =
      (a.applyAll roundUp ops >>= Anchor.epochMillis).mapError .calendar := by
  obtain ⟨math, starts, written⟩ := expresses
  rw [evaluate_eq, starts.readExpression, ← valueAfter_writes written]
  rfl

section Evaluation
variable {a : Anchor} {offset wall : Int} {roundUp : Bool}

/-- The value of a single shift. -/
theorem evaluate_shift {zone : Zone} {now : Moment} {text : String} {amount : Int}
    {unit : TimeUnit} (meant : Expresses zone now text a [.shift amount unit])
    (shows : a.Shows offset wall) (inside' : InCalendar (wall - offset * microsPerSecond)) :
    evaluate zone now roundUp text =
      (shiftWall amount unit wall >>= arrive a.zone offset >>= Anchor.epochMillis).mapError
        .calendar := by
  obtain ⟨zone, reading⟩ := a
  obtain ⟨has, rfl⟩ := shows
  rw [evaluate_expresses meant, ← shift_arrives has inside']
  exact congrArg (fun moved => (moved >>= Anchor.epochMillis).mapError _) (bind_pure _)

/-- Where a shift by months stays in the calendar, the shift back leads to a time of it as well. -/
theorem arrive_back {z : Zone} {months later : Int} (has : z.HasOffset offset)
    (moved : IsMonthsLater months wall later) (start : InCalendar wall)
    (start' : InCalendar (wall - offset * microsPerSecond)) :
    let back := monthsLater (-months) later
    shiftMonths (-months) later = .ok back ∧ arrive z offset back = .ok ⟨z, ⟨back, false⟩⟩ := by
  intro back
  have month : (dateOfWall back).monthIndex = (dateOfWall wall).monthIndex := by
    rw [(isMonthsLater (-months) later).month, moved.month, Int.add_neg_cancel_right]
  have inside : InCalendar back := by
    rw [InCalendar, inCalendar_iff, month, ← inCalendar_iff]
    exact start
  refine ⟨shiftMonths_ok.mpr ⟨inside, rfl⟩, arrive_ok.mpr ⟨inside, ?_, rfl⟩⟩
  -- A day that is cut is behind the first four weeks, and so the offset does not lead out.
  have same : back = _ := monthsLater_back moved
  obtain ⟨-, positive, last, whole⟩ := dateOfWall_spec wall
  obtain ⟨length, -⟩ := dateOfWall_spec later
  have long := monthLength_ge (dateOfWall later).monthIndex
  obtain ⟨first, -⟩ := (inCalendar_iff wall).mp start
  have begins : monthStart 12 ≤ monthStart (dateOfWall wall).monthIndex :=
    monthStart_le_iff.mpr first
  have year : monthStart 12 * microsPerDay = firstWall := rfl
  have short : offset.natAbs < 86400 := by
    cases has with
    | utc => decide
    | fixed small => exact small
  obtain ⟨time, -⟩ := timeOfWall_bounds wall
  obtain ⟨early, late⟩ := start'
  rw [length] at same
  constructor
  · simp only [microsPerDay, microsPerSecond] at *
    omega
  · simp only [microsPerDay, microsPerSecond] at *
    omega

/-- A shift by months and the same shift back. -/
theorem applyAll_months_and_back {months : Int} (shows : a.Shows offset wall)
    (inside : InCalendar wall) (inside' : InCalendar (wall - offset * microsPerSecond)) :
    let later := monthsLater months wall
    InCalendar later → InCalendar (later - offset * microsPerSecond) →
    a.applyAll roundUp [.shift months .month, .shift (-months) .month] =
      .ok ⟨a.zone, ⟨monthsLater (-months) later, false⟩⟩ := by
  intro later first last
  obtain ⟨zone, reading⟩ := a
  obtain ⟨has, rfl⟩ := shows
  have moved : IsMonthsLater months wall later := isMonthsLater months wall
  obtain ⟨shifted, back⟩ := arrive_back has moved inside inside'
  have there : Anchor.shift ⟨zone, ⟨wall, false⟩⟩ months .month = .ok ⟨zone, ⟨later, false⟩⟩ := by
    rw [shift_arrives has inside']
    exact bind_ok.mpr ⟨_, shiftMonths_ok.mpr ⟨first, rfl⟩, arrive_ok.mpr ⟨first, last, rfl⟩⟩
  have home : Anchor.shift ⟨zone, ⟨later, false⟩⟩ (-months) .month =
      .ok ⟨zone, ⟨monthsLater (-months) later, false⟩⟩ := by
    rw [shift_arrives has last]
    exact bind_ok.mpr ⟨_, shifted, back⟩
  exact bind_ok.mpr ⟨_, there, bind_ok.mpr ⟨_, home, rfl⟩⟩

/-- Calendar arithmetic from an anchor at an offset that never changes. A shift by months leads to
the wall time that is so many months later, wherever the calendar has it there and in UTC; years
count as twelve months, and weeks as seven days or 168 hours. A shift and the same one back lead to
the anchor, less the days by which its day of the month exceeds the month between them. -/
theorem evaluate_calendar_shift {zone : Zone} {now : Moment} (shows : a.Shows offset wall)
    (inside : InCalendar wall) (inside' : InCalendar (wall - offset * microsPerSecond))
    (amount : Int) (roundUp : Bool) :
    let value (text : String) := evaluate zone now roundUp text
    let means (text : String) (ops : List Operation) := Expresses zone now text a ops
    let start := (wall - offset * microsPerSecond) / 1000
    let day := (dateOfWall wall).day
    ∃ later, (∀ other, IsMonthsLater amount wall other ↔ other = later) ∧
      let instant := later - offset * microsPerSecond
      let length := daysInMonth (dateOfWall later).year (dateOfWall later).month
      (∀ text, means text [.shift amount .month] → ∀ millis, value text = .ok millis ↔
        (InCalendar later ∧ InCalendar instant) ∧ millis = instant / 1000) ∧
      (∀ years months, means years [.shift amount .year] →
        means months [.shift (12 * amount) .month] → value years = value months) ∧
      (∀ weeks days hours, means weeks [.shift amount .week] →
        means days [.shift (7 * amount) .day] → means hours [.shift (168 * amount) .hour] →
        value weeks = value days ∧ value weeks = value hours) ∧
      ∀ text, means text [.shift amount .month, .shift (-amount) .month] →
        InCalendar later → InCalendar instant →
        value text = .ok (start - (day - length : Nat) * millisPerDay) ∧
        (value text = .ok start ↔ day ≤ length) := by
  intro value means start day
  have once {text : String} {amount : Int} {unit : TimeUnit}
      (meant : means text [.shift amount unit]) : value text =
        (shiftWall amount unit wall >>= arrive a.zone offset >>= Anchor.epochMillis).mapError
          .calendar := evaluate_shift meant shows inside'
  refine ⟨_, fun other => isMonthsLater_iff, ?_, ?_, ?_, ?_⟩
  · intro text meant millis
    rw [once meant, mapError_ok]
    exact months_arrive shows.hasOffset
  · intro years months meant meant'
    rw [once meant, once meant']
    rfl
  · intro weeks days hours meant meant' meant''
    obtain ⟨inDays, inHours⟩ := shiftWall_week amount wall
    rw [once meant, once meant', once meant'', ← inDays, ← inHours]
    exact ⟨rfl, rfl⟩
  · intro text meant first last
    have home := monthsLater_back (isMonthsLater amount wall)
    have led : value text = .ok (start - (day - daysInMonth
        (dateOfWall (monthsLater amount wall)).year (dateOfWall (monthsLater amount wall)).month :
          Nat) * millisPerDay) := by
      refine (evaluate_expresses meant roundUp).trans (mapError_ok.mpr (bind_ok.mpr
        ⟨_, applyAll_months_and_back shows inside inside' first last, ?_⟩))
      rw [epochMillis_steady shows.hasOffset, home]
      simp only [start, day, millisPerDay, microsPerDay, microsPerSecond, Except.ok.injEq]
      omega
    refine ⟨led, ?_⟩
    rw [led, Except.ok.injEq]
    simp only [millisPerDay]
    omega

/-- On a clock five hours and a half ahead of UTC the last day of January 2024, at an hour that
UTC has not reached, a month later and back: February is two days too short. -/
theorem month_after_january :
    let zone : Zone := .fixed 19800
    let now : Moment := ⟨0, none⟩
    let a : Anchor := ⟨zone, ⟨1706662800000000, false⟩⟩
    let months : List Operation := [.shift 1 .month, .shift (-1) .month]
    a.Shows 19800 1706662800000000 ∧
    Expresses zone now "2024-01-31T01:00||+1M-1M" a months ∧
    evaluate zone now true "2024-01-31T01:00||+1M-1M" = .ok (1706643000000 - 2 * millisPerDay) ∧
    evaluate zone now true "2024-01-31T01:00||+1M-1M" ≠ .ok 1706643000000 := by
  intro zone now a months
  have shows : a.Shows 19800 1706662800000000 := ⟨.fixed (by decide), rfl⟩
  have text : Text.trimEnds Text.isBlank "2024-01-31T01:00||+1M-1M".toList =
      "2024-01-31T01:00".toList ++ '|' :: '|' :: "+1M-1M".toList := by decide +kernel
  have meant : Expresses zone now "2024-01-31T01:00||+1M-1M" a months := by
    refine ⟨"+1M-1M".toList, ?_, .cons rfl (.cons rfl .nil)⟩
    rw [text]
    exact .date (by decide +kernel) (by decide +kernel) (by decide +kernel)
  obtain ⟨later, unique, -, -, -, back⟩ := @evaluate_calendar_shift a _ _ zone now
    shows (by decide +kernel) (by decide +kernel) 1 true
  obtain rfl : 1709168400000000 = later :=
    (unique _).mp ⟨by decide +kernel, by decide +kernel, by decide +kernel⟩
  obtain ⟨home, exactly⟩ := back _ meant (by decide +kernel) (by decide +kernel)
  refine ⟨shows, meant, home, ?_⟩
  intro same
  exact absurd (exactly.mp same) (by decide +kernel)

end Evaluation

end DateMath

end PortableSearch.Calendar
