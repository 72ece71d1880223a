import PortableSearch.Proofs.Calendar.MonthShift
import PortableSearch.Proofs.DateMath.Grammar
import PortableSearch.Proofs.DateMath.Timeline

/-! Shifts by nothing. Through UTC a shift by no hours, minutes or seconds leads back to the anchor
wherever the clock reads it back. On the wall clock a shift by no days, weeks, months or years keeps
the wall time but not the fold, and so leads to the first instant that has the wall time: an anchor
in an hour that is repeated is moved to the first of the two. -/
namespace PortableSearch.Calendar

namespace Zone
variable {z : Zone} {r : Reading} {utc wall instant : Int}

/-- The instant of a wall time whose fold is not known: the first one of a wall time that occurs
twice, and that behind the gap for one that the clock skips. -/
def firstInstant (z : Zone) (wall : Int) : Except Fault Int :=
  z.resolve ⟨wall, false⟩ >>= z.instantOf

theorem toUtc_instantOf (found : z.instantOf r = .ok instant) (inside : InCalendar instant) :
    z.toUtc r = .ok instant := by
  cases z with
  | utc =>
    obtain ⟨_, stated, rfl⟩ := map_ok.mp found
    cases stated
    simp [toUtc]
  | fixed | table | yearly => exact bind_ok.mpr ⟨_, found, inside.checked⟩

theorem toUtc_inCalendar (inside : InCalendar r.wall) (converted : z.toUtc r = .ok instant) :
    InCalendar instant := by
  cases z with
  | utc =>
    cases converted
    exact inside
  | fixed | table | yearly =>
    obtain ⟨_, -, checked⟩ := bind_ok.mp converted
    obtain ⟨inside', rfl⟩ := checkWall_ok.mp checked
    exact inside'

theorem instantOf_seconds (found : z.instantOf r = .ok instant) :
    ∃ seconds, instant = r.wall + seconds * microsPerSecond := by
  obtain ⟨offset, -, rfl⟩ := map_ok.mp found
  exact ⟨-offset, by rw [Int.neg_mul, Int.sub_eq_add_neg]⟩

theorem firstInstant_seconds (found : z.firstInstant wall = .ok instant) :
    ∃ seconds, instant = wall + seconds * microsPerSecond := by
  obtain ⟨moved, resolved, meant⟩ := bind_ok.mp found
  obtain ⟨gap, -, there⟩ := resolve_seconds resolved
  obtain ⟨seconds, rfl⟩ := instantOf_seconds meant
  exact ⟨gap + seconds, by rw [there, Int.add_mul, Int.add_assoc]⟩

/-- A reading that the clock shows and reads back is not moved. -/
theorem resolve_shown (shown : z.ofUtc utc = .ok r) (back : z.toUtc r = .ok utc) :
    z.resolve r = .ok r := by
  cases z with
  | utc => rfl
  | fixed | table | yearly =>
    simp only [resolve, back, bind, Except.bind, shown, if_true]
    rfl

theorem firstInstant_shown (shown : z.ofUtc utc = .ok ⟨wall, false⟩)
    (back : z.toUtc ⟨wall, false⟩ = .ok utc) : z.firstInstant wall = .ok utc :=
  bind_ok.mpr ⟨_, resolve_shown shown back, instantOf_toUtc back⟩

end Zone

namespace DateMath

/-- Where a shift by no units leads from an anchor. -/
def zeroInstant (a : Anchor) (unit : TimeUnit) : Except Calendar.Fault Int :=
  if unit.isCalendar then a.zone.firstInstant a.reading.wall
  else a.zone.toUtc a.reading >>= a.zone.ofUtc >>= a.zone.instantOf

section Anchor
variable {a : Anchor} {unit : TimeUnit} {instant : Int}

theorem shiftWall_zero {wall : Int} (inside : InCalendar wall) (unit : TimeUnit) :
    shiftWall 0 unit wall = .ok wall := by
  have months : shiftMonths 0 wall = .ok wall :=
    shiftMonths_ok.mpr ⟨inside, (monthsLater_zero wall).symm⟩
  cases unit with
  | year | month => exact months
  | week | day | hour | minute | second => simp [shiftWall]

theorem shift_zero (inside : InCalendar a.reading.wall) (unit : TimeUnit) :
    (a.shift 0 unit >>= fun last => last.zone.instantOf last.reading) = zeroInstant a unit := by
  cases calendar : unit.isCalendar with
  | true =>
    rw [shift_calendar calendar (shiftWall_zero inside unit) inside.checked, zeroInstant,
      calendar, if_pos rfl, Zone.firstInstant]
    cases a.zone.resolve ⟨a.reading.wall, false⟩ <;> rfl
  | false =>
    rw [shift_timed calendar, zeroInstant, calendar, Int.zero_mul]
    cases converted : a.zone.toUtc a.reading with
    | error fault => rfl
    | ok utc =>
      have inside' := Zone.toUtc_inCalendar inside converted
      simp only [bind, Except.bind, Int.add_zero, inside'.checked]
      cases a.zone.ofUtc utc <;> rfl

/-- Through UTC an anchor comes back where the clock shows the instant that it means. -/
theorem zeroInstant_timed (inside : InCalendar a.reading.wall)
    (found : a.zone.instantOf a.reading = .ok instant) :
    (∃ other, (a.zone.toUtc a.reading >>= a.zone.ofUtc >>= a.zone.instantOf) = .ok other ∧
      other / 1000 = instant / 1000) ↔ a.zone.Shows instant := by
  constructor
  · rintro ⟨other, there, same⟩
    obtain ⟨back, shown, meant⟩ := bind_ok.mp there
    obtain ⟨utc, converted, shown⟩ := bind_ok.mp shown
    obtain rfl : utc = instant := Except.ok.inj ((Zone.instantOf_toUtc converted).symm.trans found)
    have inside' := Zone.toUtc_inCalendar inside converted
    obtain ⟨offset, wall, -⟩ := Zone.ofUtc_offset shown
    obtain ⟨seconds, rfl⟩ := Zone.instantOf_seconds meant
    obtain rfl : back.wall + seconds * microsPerSecond = utc := by
      simp only [microsPerSecond] at *
      omega
    exact ⟨inside'.checked, back, shown, Zone.toUtc_instantOf meant inside'⟩
  · rintro ⟨checked, back, shown, converted⟩
    obtain ⟨inside', -⟩ := checkWall_ok.mp checked
    have there := Zone.toUtc_instantOf found inside'
    have meant := Zone.instantOf_toUtc converted
    exact ⟨instant, bind_ok.mpr ⟨back, bind_ok.mpr ⟨_, there, shown⟩, meant⟩, rfl⟩

/-- On the wall clock an anchor stays where it is the first one with its wall time. -/
theorem zeroInstant_calendar (found : a.zone.instantOf a.reading = .ok instant) :
    (∃ other, a.zone.firstInstant a.reading.wall = .ok other ∧ other / 1000 = instant / 1000) ↔
      a.zone.firstInstant a.reading.wall = .ok instant := by
  constructor
  · rintro ⟨other, first, same⟩
    obtain ⟨seconds, rfl⟩ := Zone.instantOf_seconds found
    obtain ⟨seconds', rfl⟩ := Zone.firstInstant_seconds first
    rw [first, Except.ok.injEq]
    simp only [microsPerSecond] at *
    omega
  · intro first
    exact ⟨instant, first, rfl⟩

end Anchor

section Evaluation
variable {zone : Zone} {now : Moment} {a : Anchor} {instant : Int} {unit : TimeUnit}
  {sign letter : Char}

theorem writes_zero (named : letter ∈ unit.letters) (signed : sign = '+' ∨ sign = '-') :
    Writes (trimRight (String.ofList [sign, '0', letter]).toList) [.shift 0 unit] := by
  have visible : Text.isBlank letter = false := TimeUnit.isBlank_letter named
  have whole : trimRight (String.ofList [sign, '0', letter]).toList = [sign, '0', letter] := by
    simp [trimRight, visible]
  have read : readOperation sign ['0', letter] = .ok (.shift 0 unit, []) := by
    have digits : ∀ c ∈ ['0'], Text.isDigit c = true := by simpa using Text.isDigit_ascii rfl
    refine readOperation_ok.mpr ⟨['0'], letter, unit, rfl, digits, named, ?_⟩
    rcases signed with rfl | rfl
    · exact .ahead (n := 0) rfl
    · exact .back (n := 0) rfl
  rw [whole]
  exact .cons read .nil

theorem evaluate_zero (reached : anchorAt zone now = .ok a) (named : letter ∈ unit.letters)
    (signed : sign = '+' ∨ sign = '-') (roundUp : Bool) (millis : Int) :
    evaluate zone now roundUp ("now" ++ String.ofList [sign, '0', letter]) = .ok millis ↔
      ∃ other, zeroInstant a unit = .ok other ∧ other / 1000 = millis := by
  obtain ⟨inside, shown, rfl⟩ := anchorAt_ok reached
  obtain ⟨_, -, -, stays⟩ := Zone.ofUtc_offset shown
  have single : a.applyAll roundUp [.shift 0 unit] = a.shift 0 unit := bind_pure _
  rw [evaluate_now (writes_zero named signed), mapError_ok, reached,
    ← shift_zero (stays inside) unit]
  show (a.applyAll roundUp [.shift 0 unit] >>= Anchor.epochMillis) = .ok millis ↔ _
  rw [single]
  cases a.shift 0 unit with
  | error fault => simp [bind, Except.bind]
  | ok last => exact map_ok

/-- A shift by no units leads to the anchor's instant, through UTC wherever the clock shows it, and
on the wall clock exactly where it is the first instant with its wall time. Elsewhere units of the
calendar lead to that first instant. -/
theorem evaluate_zero_shift (reached : anchorAt zone now = .ok a)
    (found : zone.instantOf a.reading = .ok instant) (named : letter ∈ unit.letters)
    (signed : sign = '+' ∨ sign = '-') (roundUp : Bool) :
    let value (math : String) := evaluate zone now roundUp ("now" ++ math)
    let zero := String.ofList [sign, '0', letter]
    value "" = .ok (instant / 1000) ∧
    (value zero = value "" ↔
      if unit.isCalendar then zone.firstInstant a.reading.wall = .ok instant
      else zone.Shows instant) ∧
    (zone.Shows now.utc → (unit.isCalendar = true → a.reading.fold = false) →
      value zero = value "") ∧
    ∀ first, zone.Shows first → zone.ofUtc first = .ok ⟨a.reading.wall, false⟩ →
      unit.isCalendar = true → value zero = .ok (first / 1000) := by
  intro value zero
  obtain ⟨inside, shown, rfl⟩ := anchorAt_ok reached
  obtain ⟨_, -, -, stays⟩ := Zone.ofUtc_offset shown
  have plain : value "" = .ok (instant / 1000) :=
    evaluate_now_ok (a := a) (by simp [trimRight]; exact .nil) reached rfl found
  have same : value zero = value "" ↔
      if unit.isCalendar then a.zone.firstInstant a.reading.wall = .ok instant
      else a.zone.Shows instant := by
    rw [plain, evaluate_zero reached named signed, zeroInstant]
    cases unit.isCalendar with
    | true => exact zeroInstant_calendar found
    | false => exact zeroInstant_timed (stays inside) found
  refine ⟨plain, same, ?_, ?_⟩
  · rintro ⟨checked, r, shown', back⟩ single
    obtain rfl : a.reading = r := Except.ok.inj (shown.symm.trans shown')
    obtain rfl : now.utc = instant :=
      Except.ok.inj ((Zone.instantOf_toUtc back).symm.trans found)
    rw [same]
    cases calendar : unit.isCalendar with
    | true =>
      have again : a.reading = ⟨a.reading.wall, false⟩ := by rw [← single calendar]
      rw [again] at shown back
      exact Zone.firstInstant_shown shown back
    | false => exact ⟨checked, _, shown, back⟩
  · rintro first ⟨-, r, shown', back⟩ first' calendar
    obtain rfl : ⟨a.reading.wall, false⟩ = r := Except.ok.inj (first'.symm.trans shown')
    rw [evaluate_zero reached named signed, zeroInstant, calendar]
    exact ⟨first, Zone.firstInstant_shown first' back, rfl⟩

/-- In the second of the two hours after two o'clock that Paris has at the end of summer time, a
shift by no hours changes nothing, and a shift by no days leads to the first of them. -/
theorem second_hour_of_two :
    let zone : Zone := .table parisTable
    let now : Moment := ⟨1414287000000000, some 0⟩
    let a : Anchor := ⟨zone, ⟨1414290600000000, true⟩⟩
    let first : Int := 1414283400000000
    anchorAt zone now = .ok a ∧ zone.instantOf a.reading = .ok now.utc ∧ zone.Shows now.utc ∧
    zone.Shows first ∧ zone.ofUtc first = .ok ⟨a.reading.wall, false⟩ ∧
    evaluate zone now false ("now" ++ String.ofList ['-', '0', 'H']) =
      evaluate zone now false ("now" ++ "") ∧
    evaluate zone now true ("now" ++ String.ofList ['+', '0', 'd']) = .ok (first / 1000) := by
  intro zone now a first
  have reached : anchorAt zone now = .ok a := by decide +kernel
  have found : zone.instantOf a.reading = .ok now.utc := by decide +kernel
  have shows : zone.Shows now.utc :=
    ⟨by decide +kernel, a.reading, by decide +kernel, by decide +kernel⟩
  have shows' : zone.Shows first :=
    ⟨by decide +kernel, ⟨a.reading.wall, false⟩, by decide +kernel, by decide +kernel⟩
  have first' : zone.ofUtc first = .ok ⟨a.reading.wall, false⟩ := by decide +kernel
  have hour : 'H' ∈ TimeUnit.hour.letters := by decide
  have day : 'd' ∈ TimeUnit.day.letters := by decide
  obtain ⟨-, -, same, -⟩ := evaluate_zero_shift reached found hour (.inr rfl) false
  obtain ⟨-, -, -, moved⟩ := evaluate_zero_shift reached found day (.inl rfl) true
  exact ⟨reached, found, shows, shows', first', same shows nofun, moved first shows' first' rfl⟩

/-- There a shift by no days is not the identity: it leads an hour into the past. -/
theorem no_days_later_is_earlier :
    let zone : Zone := .table parisTable
    let now : Moment := ⟨1414287000000000, some 0⟩
    let value (math : String) := evaluate zone now false ("now" ++ math)
    value "" = .ok now.epochMillis ∧ value "+0d" = .ok (now.epochMillis - 3600000) ∧
      value "+0d" ≠ value "" := by
  intro zone now value
  have nothing : Writes (trimRight "".toList) [] := .nil
  have written : Writes (trimRight "+0d".toList) [.shift 0 .day] := .cons rfl .nil
  have plain : value "" = .ok now.epochMillis := by
    show evaluate zone now false ("now" ++ "") = _
    rw [evaluate_now nothing]
    decide +kernel
  have zero : value "+0d" = .ok (now.epochMillis - 3600000) := by
    show evaluate zone now false ("now" ++ "+0d") = _
    rw [evaluate_now written]
    decide +kernel
  refine ⟨plain, zero, ?_⟩
  rw [plain, zero]
  decide +kernel

end Evaluation

end DateMath

end PortableSearch.Calendar
