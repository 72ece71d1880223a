import PortableSearch.Proofs.Calendar.MonthShift
import PortableSearch.Proofs.DateMath.ZoneShift
import PortableSearch.Proofs.Outcome

/-! Date math keeps the order of moments. Where the clock of a zone is always ahead of UTC by the
same offset, a later moment has no earlier result: rounding never changes the order, since units lie
one behind the other, and neither do spans of a fixed length. Shifts by months and years, which cut
the day of the month, are left out. -/
namespace PortableSearch.Calendar

/-- A shift of this kind keeps the order of moments, and so does every rounding. -/
def Operation.keepsOrder : Operation → Bool
  | .shift _ .year | .shift _ .month => false
  | _ => true

namespace DateMath
variable {wall wall' : Int}

/-! Rounding -/

theorem floorWall_month (wall : Int) :
    floorWall .month wall = monthStart (dateOfWall wall).monthIndex * microsPerDay := by
  obtain ⟨first, last, -, -, -⟩ := ofDayNumber_spec (dayOfWall wall)
  have midnight : Clock.micros ⟨0, 0, 0, 0⟩ = 0 := rfl
  rw [floorWall, wallOf, midnight, monthStart, dateOfWall, firstOfMonth_monthIndex first last]
  omega

theorem floorWall_year (wall : Int) :
    floorWall .year wall = monthStart (12 * (dateOfWall wall).year) * microsPerDay := by
  have midnight : Clock.micros ⟨0, 0, 0, 0⟩ = 0 := rfl
  have january : firstOfMonth (12 * (dateOfWall wall).year) = ⟨(dateOfWall wall).year, 1, 1⟩ := by
    simp only [firstOfMonth, Date.mk.injEq, and_true]
    exact ⟨by omega, by omega⟩
  rw [floorWall, wallOf, midnight, monthStart, january]
  omega

theorem monthIndex_le (le : wall ≤ wall') :
    (dateOfWall wall).monthIndex ≤ (dateOfWall wall').monthIndex := by
  refine monthIndex_mono ?_
  simp only [dayOfWall, microsPerDay, microsPerSecond]
  omega

theorem year_le (le : wall ≤ wall') : (dateOfWall wall).year ≤ (dateOfWall wall').year := by
  obtain ⟨first, last, -, -, -⟩ := ofDayNumber_spec (dayOfWall wall)
  obtain ⟨first', last', -, -, -⟩ := ofDayNumber_spec (dayOfWall wall')
  have months := monthIndex_le le
  simp only [Date.monthIndex, dateOfWall] at months first last first' last' ⊢
  omega

theorem shiftMonths_start {months index later : Int}
    (moved : shiftMonths months (monthStart index * microsPerDay) = .ok later) :
    later = monthStart (index + months) * microsPerDay := by
  have start : monthsLater months (monthStart index * microsPerDay + 0) =
      monthStart (index + months) * microsPerDay + 0 :=
    monthsLater_inMonth (Int.le_refl 0) (by decide)
  rw [Int.add_zero, Int.add_zero] at start
  obtain ⟨-, reached⟩ := shiftMonths_ok.mp moved
  rw [reached, start]

theorem monthStart_wall_le {index index' : Int} (le : index ≤ index') :
    monthStart index * microsPerDay ≤ monthStart index' * microsPerDay := by
  have days := monthStart_le_iff.mpr le
  simp only [microsPerDay, microsPerSecond]
  omega

theorem shiftMonths_start_le {months index index' later later' : Int} (le : index ≤ index')
    (moved : shiftMonths months (monthStart index * microsPerDay) = .ok later)
    (moved' : shiftMonths months (monthStart index' * microsPerDay) = .ok later') :
    later ≤ later' := by
  rw [shiftMonths_start moved, shiftMonths_start moved']
  exact monthStart_wall_le (by omega)

theorem floorWall_le (unit : TimeUnit) (le : wall ≤ wall') :
    floorWall unit wall ≤ floorWall unit wall' := by
  cases unit with
  | year =>
    have years := year_le le
    rw [floorWall_year, floorWall_year]
    exact monthStart_wall_le (by omega)
  | month =>
    rw [floorWall_month, floorWall_month]
    exact monthStart_wall_le (monthIndex_le le)
  | week =>
    simp only [floorWall, dayOfWall, weekday, microsPerDay, microsPerSecond]
    omega
  | day | hour | minute | second =>
    simp only [floorWall, TimeUnit.micros, microsPerDay, microsPerSecond]
    omega

theorem nextWall_le (unit : TimeUnit) (le : wall ≤ wall') {later later' : Int}
    (next : shiftWall 1 unit (floorWall unit wall) = .ok later)
    (next' : shiftWall 1 unit (floorWall unit wall') = .ok later') : later ≤ later' := by
  -- A shift by months need not keep the order, since it cuts the day of the month; from the
  -- beginning of a year or a month it does.
  have floors := floorWall_le unit le
  cases unit with
  | year =>
    have years := year_le le
    rw [floorWall_year] at next next'
    exact shiftMonths_start_le (by omega) next next'
  | month =>
    rw [floorWall_month] at next next'
    exact shiftMonths_start_le (monthIndex_le le) next next'
  | week | day | hour | minute | second =>
    cases next
    cases next'
    omega

/-! Operations -/

section Run
variable {roundUp : Bool} {later later' : Int}

theorem onWall_le {op : Operation} (keeps : op.keepsOrder = true) (le : wall ≤ wall')
    (moved : onWall roundUp wall op = .ok later) (moved' : onWall roundUp wall' op = .ok later') :
    later ≤ later' := by
  cases op with
  | shift amount unit =>
    cases unit with
    | year | month => cases keeps
    | week | day | hour | minute | second =>
      cases moved
      cases moved'
      omega
  | round unit =>
    cases roundUp with
    | false =>
      cases moved
      cases moved'
      exact floorWall_le unit le
    | true =>
      simp only [onWall, if_true, map_ok] at moved moved'
      obtain ⟨next, ends, rfl⟩ := moved
      obtain ⟨next', ends', rfl⟩ := moved'
      have nexts := nextWall_le unit le ends ends'
      omega

theorem allOnWall_le {ops : List Operation} (keep : ∀ op ∈ ops, op.keepsOrder = true)
    (le : wall ≤ wall') (moved : allOnWall roundUp wall ops = .ok later)
    (moved' : allOnWall roundUp wall' ops = .ok later') : later ≤ later' := by
  induction ops generalizing wall wall' with
  | nil =>
    cases moved
    cases moved'
    exact le
  | cons op ops ih =>
    rw [allOnWall, List.foldlM_cons, bind_ok] at moved moved'
    obtain ⟨next, step, rest⟩ := moved
    obtain ⟨next', step', rest'⟩ := moved'
    exact ih (fun op inside => keep op (List.mem_cons_of_mem _ inside))
      (onWall_le (keep op List.mem_cons_self) le step step') rest rest'

end Run

/-! Expressions -/

theorem mem_zonePart {roundUp : Bool} {ops : List Operation} {op : Operation}
    (inside : op ∈ zonePart roundUp ops) : op ∈ ops := by
  rw [← zonePart_append_utcPart roundUp ops]
  exact List.mem_append_left _ inside

theorem mem_utcPart {roundUp : Bool} {ops : List Operation} {op : Operation}
    (inside : op ∈ utcPart roundUp ops) : op ∈ ops := by
  rw [← zonePart_append_utcPart roundUp ops]
  exact List.mem_append_right _ inside

section Evaluation
variable {zone : Zone} {offset : Int} {math : String} {ops : List Operation} {roundUp : Bool}
  {earlier later : Moment}

/-- On a clock with a fixed offset a later moment has no earlier value. -/
theorem evaluate_le (has : zone.HasOffset offset) (written : Writes (trimRight math.toList) ops)
    (keep : ∀ op ∈ ops, op.keepsOrder = true) (le : earlier.utc ≤ later.utc)
    (inYears : InYears (evaluate zone earlier roundUp ("now" ++ math)))
    (inYears' : InYears (evaluate zone later roundUp ("now" ++ math))) :
    ∃ first second, evaluate zone earlier roundUp ("now" ++ math) = .ok first ∧
      evaluate zone later roundUp ("now" ++ math) = .ok second ∧ first ≤ second := by
  obtain ⟨rounded, instant, first, rest, value⟩ := evaluate_now_inYears written has inYears
  obtain ⟨rounded', instant', first', rest', value'⟩ := evaluate_now_inYears written has inYears'
  rw [Moment.utc_later] at first first'
  -- Rounding up goes over to the clock of UTC in the same place for both moments.
  have walls : rounded ≤ rounded' :=
    allOnWall_le (fun op inside => keep op (mem_zonePart inside)) (by omega) first first'
  have instants : instant ≤ instant' :=
    allOnWall_le (fun op inside => keep op (mem_utcPart inside)) (by omega) rest rest'
  exact ⟨_, _, value, value', by omega⟩

end Evaluation

section TooFar
variable {offset : Int} {roundUp : Bool}

/-- A clock that is a day or more off has no moments. -/
theorem not_toUtc (far : ¬ offset.natAbs < 86400) (r : Reading) (utc : Int) :
    (Zone.fixed offset).toUtc r ≠ .ok utc := by
  simp [Zone.toUtc, Zone.instantOf, Zone.offsetAt, Zone.statedOffset, far, bind, Except.bind,
    Except.map, throw, throwThe, MonadExceptOf.throw]

theorem not_resolve (far : ¬ offset.natAbs < 86400) (r r' : Reading) :
    (Zone.fixed offset).resolve r ≠ .ok r' := by
  intro resolved
  obtain ⟨back, there, -⟩ := bind_ok.mp resolved
  obtain ⟨utc, atUtc, -⟩ := bind_ok.mp there
  exact not_toUtc far r utc atUtc

theorem not_apply (far : ¬ offset.natAbs < 86400) (r : Reading) (op : Operation) (next : Anchor) :
    Anchor.apply ⟨.fixed offset, r⟩ roundUp op ≠ .ok next := by
  intro applied
  cases op with
  | round unit =>
    obtain ⟨floor, floored, -⟩ := bind_ok.mp applied
    obtain ⟨first, -, resolved⟩ := bind_ok.mp floored
    exact not_resolve far first floor resolved
  | shift amount unit =>
    cases unit with
    | year | month | week | day =>
      obtain ⟨wall, -, moved⟩ := bind_ok.mp applied
      obtain ⟨reading, resolved, -⟩ := bind_ok.mp moved
      exact not_resolve far _ reading resolved
    | hour | minute | second =>
      obtain ⟨utc, atUtc, -⟩ := bind_ok.mp applied
      exact not_toUtc far r utc atUtc

theorem not_evaluate (far : ¬ offset.natAbs < 86400) {math : String} {ops : List Operation}
    (written : Writes (trimRight math.toList) ops) (now : Moment) (value : Int) :
    evaluate (.fixed offset) now roundUp ("now" ++ math) ≠ .ok value := by
  rw [evaluate_now written, Ne, mapError_ok, bind_ok]
  rintro ⟨a, began, result⟩
  obtain ⟨last, applied, ends⟩ := bind_ok.mp result
  obtain ⟨utc, -, shown⟩ := bind_ok.mp began
  obtain ⟨r, -, same⟩ := bind_ok.mp shown
  cases same
  cases ops with
  | nil =>
    cases applied
    obtain ⟨instant, atUtc, -⟩ := map_ok.mp ends
    simp [Zone.instantOf, Zone.offsetAt, Zone.statedOffset, far, bind, Except.bind, Except.map,
      throw, throwThe, MonadExceptOf.throw] at atUtc
  | cons op ops =>
    obtain ⟨next, step, -⟩ := bind_ok.mp applied
    exact not_apply far r op next step

end TooFar

/-- In UTC and in every zone of a fixed offset, a later moment has no earlier value, for every
expression of roundings and of shifts by weeks and shorter units. Both moments have a value unless
the evaluation leaves the years of the calendar, or the zone is a day or more off and no expression
has a value. -/
theorem evaluate_keeps_order {zone : Zone} (steady : zone = .utc ∨ ∃ offset, zone = .fixed offset)
    {math : String} {ops : List Operation} (written : Writes (trimRight math.toList) ops)
    (keep : ∀ op ∈ ops, op.keepsOrder = true) {earlier later : Moment}
    (le : earlier.utc ≤ later.utc) (roundUp : Bool) :
    (∀ first second, evaluate zone earlier roundUp ("now" ++ math) = .ok first →
      evaluate zone later roundUp ("now" ++ math) = .ok second → first ≤ second) ∧
    ∀ offset, zone.HasOffset offset → InYears (evaluate zone earlier roundUp ("now" ++ math)) →
      InYears (evaluate zone later roundUp ("now" ++ math)) →
      ∃ first second, evaluate zone earlier roundUp ("now" ++ math) = .ok first ∧
        evaluate zone later roundUp ("now" ++ math) = .ok second ∧ first ≤ second := by
  refine ⟨?_, fun offset has inYears inYears' => evaluate_le has written keep le inYears inYears'⟩
  intro first second value value'
  have has : ∃ offset, zone.HasOffset offset := by
    obtain rfl | ⟨offset, rfl⟩ := steady
    · exact ⟨0, .utc⟩
    · by_cases small : offset.natAbs < 86400
      · exact ⟨offset, .fixed small⟩
      · exact absurd value (not_evaluate small written earlier first)
  obtain ⟨offset, has⟩ := has
  obtain ⟨first', second', same, same', le⟩ :=
    evaluate_le has written keep le (.of_ok value) (.of_ok value')
  rw [value] at same
  rw [value'] at same'
  cases same
  cases same'
  exact le

/-- Five and a half hours ahead of UTC, the end of the month and a week more, from the last hour of
February and from the first of March there. -/
theorem ends_of_month_in_order :
    let zone : Zone := .fixed 19800
    let earlier : Moment := ⟨1709227800000000, some 0⟩
    let later : Moment := ⟨1709231400000000, some 0⟩
    (zone = .utc ∨ ∃ offset, zone = .fixed offset) ∧
    Writes (trimRight "/M+1w".toList) [.round .month, .shift 1 .week] ∧
    (∀ op ∈ [Operation.round .month, .shift 1 .week], op.keepsOrder = true) ∧
    earlier.utc ≤ later.utc ∧
    evaluate zone earlier true ("now" ++ "/M+1w") = .ok 1709836199999 ∧
    evaluate zone later true ("now" ++ "/M+1w") = .ok 1712514599999 ∧
    (1709836199999 : Int) ≤ 1712514599999 := by
  intro zone earlier later
  have written : Writes (trimRight "/M+1w".toList) [.round .month, .shift 1 .week] :=
    .cons rfl (.cons rfl .nil)
  have first : evaluate zone earlier true ("now" ++ "/M+1w") = .ok 1709836199999 := by
    rw [evaluate_now written]
    decide +kernel
  have second : evaluate zone later true ("now" ++ "/M+1w") = .ok 1712514599999 := by
    rw [evaluate_now written]
    decide +kernel
  have steady : zone = .utc ∨ ∃ offset, zone = .fixed offset := .inr ⟨19800, rfl⟩
  have keep : ∀ op ∈ [Operation.round .month, .shift 1 .week], op.keepsOrder = true := by decide
  have le : earlier.utc ≤ later.utc := by decide
  exact ⟨steady, written, keep, le, first, second,
    (evaluate_keeps_order steady written keep le true).1 _ _ first second⟩

end DateMath
end PortableSearch.Calendar
