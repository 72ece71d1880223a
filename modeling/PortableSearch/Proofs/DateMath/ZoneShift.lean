import PortableSearch.Proofs.DateMath.FixedZone

/-! Date math on the clock of a fixed zone and on the clock of UTC. Where a clock is ahead of UTC
by a fixed offset, an expression should mean what it means on the clock of UTC at a moment that is
later by the offset, moved back by it. It does, up to the first operation that rounds up: the
result of rounding up is on the clock of UTC, and the operations after it are carried out there. -/
namespace PortableSearch.Calendar

/-- The moment so many seconds later. -/
def Moment.later (m : Moment) (seconds : Int) : Moment :=
  ⟨m.wall + seconds * microsPerSecond, m.offset⟩

theorem Moment.utc_later (m : Moment) (seconds : Int) :
    (m.later seconds).utc = m.utc + seconds * microsPerSecond := by
  simp only [utc, later]
  omega

/-- An operation that does on every clock the same to the moment that the clock shows, as far as
the clocks differ by the offset. -/
def Operation.ignores (offset : Int) : Operation → Bool
  | .shift _ .year | .shift _ .month => offset == 0
  | .shift .. => true
  | .round .year | .round .month | .round .week => offset == 0
  | .round unit => offset * microsPerSecond % unit.micros == 0

namespace DateMath
variable {a : Anchor} {zone : Zone} {offset wall : Int} {roundUp : Bool} {ops : List Operation}

/-- The operations that are carried out on the clock of the zone: all of them or, when rounding
up, those up to the first rounding. -/
def zonePart (roundUp : Bool) : List Operation → List Operation
  | [] => []
  | op :: ops => op :: if op.leavesZone roundUp then [] else zonePart roundUp ops

/-- The operations that are carried out on the clock of UTC. -/
def utcPart (roundUp : Bool) : List Operation → List Operation
  | [] => []
  | op :: ops => if op.leavesZone roundUp then ops else utcPart roundUp ops

theorem zonePart_append_utcPart (roundUp : Bool) (ops : List Operation) :
    zonePart roundUp ops ++ utcPart roundUp ops = ops := by
  induction ops with
  | nil => rfl
  | cons op ops ih =>
    simp only [zonePart, utcPart, List.cons_append]
    split
    · rfl
    · rw [ih]

/-- What a run gives on a clock with a fixed offset: the moment that the rest of the operations
leads to on the clock of UTC, from the moment that the first ones lead to on this clock. By
induction on the operations; an operation that leaves the zone goes over to the case of no
offset, where both parts run on the same clock. -/
theorem applyAll_yields (shows : a.Shows offset wall) (roundUp : Bool) (ops : List Operation) :
    Yields (a.applyAll roundUp ops) fun last =>
      ∃ rounded instant, allOnWall roundUp wall (zonePart roundUp ops) = .ok rounded ∧
        allOnWall roundUp (rounded - offset * microsPerSecond) (utcPart roundUp ops) =
          .ok instant ∧
        last.zone.instantOf last.reading = .ok instant := by
  induction ops generalizing a offset wall with
  | nil =>
    refine ⟨wall, wall - offset * microsPerSecond, rfl, rfl, ?_⟩
    rw [Zone.instantOf_hasOffset shows.hasOffset, shows.reading]
  | cons op ops ih =>
    refine (apply_yields shows roundUp op).bind fun next ⟨later, step, shown⟩ => ?_
    cases leaves : op.leavesZone roundUp with
    | false =>
      simp only [leaves, Bool.false_eq_true, if_false] at shown
      simp only [zonePart, utcPart, leaves, Bool.false_eq_true, if_false, allOnWall_cons step]
      exact ih shown
    | true =>
      simp only [leaves, if_true] at shown
      refine (ih shown).weaken fun last ⟨rounded, instant, first, rest, shows⟩ => ?_
      -- On the clock of UTC nothing distinguishes the two parts, so they join to all that is left.
      have whole : allOnWall roundUp (later - offset * microsPerSecond) ops = .ok instant := by
        rw [← zonePart_append_utcPart roundUp ops, allOnWall_append first, ← rest,
          Int.zero_mul, Int.sub_zero]
      simp only [zonePart, utcPart, leaves, if_true, allOnWall_cons step]
      exact ⟨later, instant, rfl, whole, shows⟩

theorem anchorAt_yields (has : zone.HasOffset offset) (now : Moment) :
    Yields (anchorAt zone now) fun a => a.Shows offset (now.later offset).utc := by
  refine (checkWall_yields _).bind fun utc same => ?_
  refine (Zone.ofUtc_yields has utc).bind fun reading shown => ?_
  exact ⟨has, by rw [shown, same, Moment.utc_later]⟩

/-- The evaluation of an expression does not leave the years of the calendar. -/
def InYears (r : Except Fault Int) : Prop :=
  ∀ fault, r = .error (.calendar fault) → ¬ fault.LeavesYears

theorem InYears.of_ok {r : Except Fault Int} {x : Int} (value : r = .ok x) : InYears r := by
  rintro fault failed
  rw [value] at failed
  cases failed

theorem InYears.result {r : Except Calendar.Fault Int} {P : Int → Prop}
    (inYears : InYears (r.mapError .calendar)) (yields : Yields r P) : ∃ x, r = .ok x ∧ P x := by
  cases r with
  | error fault => exact absurd yields (inYears fault rfl)
  | ok x => exact ⟨x, rfl, yields⟩

/-- The value of `now` with operations after it, on a clock with a fixed offset. -/
theorem evaluate_now_inYears {math : String} {now : Moment}
    (written : Writes (trimRight math.toList) ops) (has : zone.HasOffset offset)
    (inYears : InYears (evaluate zone now roundUp ("now" ++ math))) :
    ∃ rounded instant,
      allOnWall roundUp (now.later offset).utc (zonePart roundUp ops) = .ok rounded ∧
      allOnWall roundUp (rounded - offset * microsPerSecond) (utcPart roundUp ops) = .ok instant ∧
      evaluate zone now roundUp ("now" ++ math) = .ok (instant / 1000) := by
  rw [evaluate_now written] at inYears ⊢
  have yields : Yields (anchorAt zone now >>= fun a =>
      a.applyAll roundUp ops >>= Anchor.epochMillis) fun millis => ∃ rounded instant,
        allOnWall roundUp (now.later offset).utc (zonePart roundUp ops) = .ok rounded ∧
        allOnWall roundUp (rounded - offset * microsPerSecond) (utcPart roundUp ops) =
          .ok instant ∧ millis = instant / 1000 := by
    refine (anchorAt_yields has now).bind fun a shows => ?_
    refine (applyAll_yields shows roundUp ops).bind
      fun last ⟨rounded, instant, first, rest, reached⟩ => ?_
    rw [Anchor.epochMillis, reached]
    exact ⟨rounded, instant, first, rest, rfl⟩
  obtain ⟨millis, value, rounded, instant, first, rest, rfl⟩ := inYears.result yields
  exact ⟨rounded, instant, first, rest, by rw [value]; rfl⟩

/-- Spans of a fixed length are the same from every wall time on. -/
theorem shiftWall_sub {unit : TimeUnit} (year : unit ≠ .year) (month : unit ≠ .month)
    (amount wall span : Int) : shiftWall amount unit (wall - span) =
      (shiftWall amount unit wall).map (· - span) := by
  have moved : wall - span + amount * unit.micros = wall + amount * unit.micros - span := by omega
  cases unit with
  | year => exact absurd rfl year
  | month => exact absurd rfl month
  | week | day | hour | minute | second => exact congrArg Except.ok moved

/-- Rounding to a unit commutes with a span of whole units. -/
theorem onWall_round_sub {unit : TimeUnit}
    (short : unit = .day ∨ unit = .hour ∨ unit = .minute ∨ unit = .second) {span : Int}
    (whole : span % unit.micros = 0) (roundUp : Bool) (wall : Int) :
    onWall roundUp (wall - span) (.round unit) =
      (onWall roundUp wall (.round unit)).map (· - span) := by
  have floor : floorWall unit (wall - span) = floorWall unit wall - span := by
    obtain rfl | rfl | rfl | rfl := short <;>
      simp only [floorWall, TimeUnit.micros, microsPerDay, microsPerSecond] at whole ⊢ <;> omega
  have year : unit ≠ .year := by rintro rfl; simp at short
  have month : unit ≠ .month := by rintro rfl; simp at short
  cases roundUp with
  | false => exact congrArg Except.ok floor
  | true =>
    simp only [onWall, if_true, floor, shiftWall_sub year month]
    cases shiftWall 1 unit (floorWall unit wall) with
    | error fault => rfl
    | ok later =>
      simp only [Except.map]
      congr 1
      omega

theorem onWall_ignores {op : Operation} (ignores : op.ignores offset = true) (roundUp : Bool)
    (wall : Int) : onWall roundUp (wall - offset * microsPerSecond) op =
      (onWall roundUp wall op).map (· - offset * microsPerSecond) := by
  by_cases none : offset = 0
  · subst none
    cases moved : onWall roundUp wall op <;> simp [moved, Except.map]
  · cases op with
    | shift amount unit =>
      have year : unit ≠ .year := by rintro rfl; simp [Operation.ignores, none] at ignores
      have month : unit ≠ .month := by rintro rfl; simp [Operation.ignores, none] at ignores
      exact shiftWall_sub year month amount wall _
    | round unit =>
      have short : unit = .day ∨ unit = .hour ∨ unit = .minute ∨ unit = .second := by
        cases unit <;> simp [Operation.ignores, none] at ignores ⊢
      refine onWall_round_sub short ?_ roundUp wall
      obtain rfl | rfl | rfl | rfl := short <;> simpa [Operation.ignores] using ignores

/-- Operations that ignore the offset lead on both clocks to the same moment. -/
theorem allOnWall_ignores (ignores : ops.all (·.ignores offset) = true) (roundUp : Bool)
    (wall : Int) : allOnWall roundUp (wall - offset * microsPerSecond) ops =
      (allOnWall roundUp wall ops).map (· - offset * microsPerSecond) := by
  induction ops generalizing wall with
  | nil => rfl
  | cons op ops ih =>
    simp only [List.all_cons, Bool.and_eq_true] at ignores
    rw [allOnWall, allOnWall, List.foldlM_cons, List.foldlM_cons, onWall_ignores ignores.1]
    cases onWall roundUp wall op with
    | error fault => rfl
    | ok later => exact ih ignores.2 later

/-- From the moment at which a clock shows a wall time, operations lead to the same millisecond
whether they are carried out on the clock of UTC or on this clock, which is ahead by the offset. -/
def SameMoment (roundUp : Bool) (offset wall : Int) (ops : List Operation) : Prop :=
  (allOnWall roundUp (wall - offset * microsPerSecond) ops).map (· / 1000) =
    (allOnWall roundUp wall ops).map fun later => (later - offset * microsPerSecond) / 1000

theorem sameMoment_ignores (ignores : ops.all (·.ignores offset) = true) (roundUp : Bool)
    (wall : Int) : SameMoment roundUp offset wall ops := by
  rw [SameMoment, allOnWall_ignores ignores]
  cases allOnWall roundUp wall ops <;> rfl

/-- The value of an expression in a zone with a fixed offset is its value on the clock of UTC at
the moment that is later by the offset, moved back by it, exactly if the operations after the first
rounding up do not notice that they are carried out on the clock of UTC. They do not if there are
none, or if all of them ignore the offset. -/
theorem evaluate_fixed_zone {offset : Int} {math : String} {ops : List Operation} {now : Moment}
    {roundUp : Bool} (small : offset.natAbs < 86400) (written : Writes (trimRight math.toList) ops)
    (inZone : InYears (evaluate (.fixed offset) now roundUp ("now" ++ math)))
    (onUtc : InYears (evaluate .utc (now.later offset) roundUp ("now" ++ math))) :
    ∃ value expected rounded,
      evaluate (.fixed offset) now roundUp ("now" ++ math) = .ok value ∧
      evaluate .utc (now.later offset) roundUp ("now" ++ math) = .ok expected ∧
      allOnWall roundUp (now.later offset).utc (zonePart roundUp ops) = .ok rounded ∧
      (value = expected - 1000 * offset ↔
        SameMoment roundUp offset rounded (utcPart roundUp ops)) ∧
      ((utcPart roundUp ops).all (·.ignores offset) = true →
        value = expected - 1000 * offset) := by
  obtain ⟨rounded, instant, first, rest, value⟩ :=
    evaluate_now_inYears written (.fixed small) inZone
  obtain ⟨rounded', wall, first', rest', expected⟩ := evaluate_now_inYears written .utc onUtc
  have start : ((now.later offset).later 0).utc = (now.later offset).utc := by
    simp [Moment.utc_later]
  rw [start, first] at first'
  cases first'
  simp only [Int.zero_mul, Int.sub_zero] at rest'
  have exactly : instant / 1000 = wall / 1000 - 1000 * offset ↔
      SameMoment roundUp offset rounded (utcPart roundUp ops) := by
    rw [SameMoment, rest, rest']
    simp only [Except.map, Except.ok.injEq, microsPerSecond]
    omega
  exact ⟨_, _, rounded, value, expected, first, exactly,
    fun ignores => exactly.mpr (sameMoment_ignores ignores roundUp rounded)⟩

/-- Five hours ahead of UTC, the end of the day and then one more day: both clocks agree. -/
theorem day_after_end_of_day :
    let now : Moment := ⟨1416306615000000, some 0⟩
    let ops : List Operation := [.round .day, .shift 1 .day]
    (18000 : Int).natAbs < 86400 ∧ Writes (trimRight "/d+1d".toList) ops ∧
    InYears (evaluate (.fixed 18000) now true ("now" ++ "/d+1d")) ∧
    InYears (evaluate .utc (now.later 18000) true ("now" ++ "/d+1d")) ∧
    ∃ value expected, evaluate (.fixed 18000) now true ("now" ++ "/d+1d") = .ok value ∧
      evaluate .utc (now.later 18000) true ("now" ++ "/d+1d") = .ok expected ∧
      value = expected - 1000 * 18000 := by
  intro now ops
  have written : Writes (trimRight "/d+1d".toList) ops := .cons rfl (.cons rfl .nil)
  have inZone : evaluate (.fixed 18000) now true ("now" ++ "/d+1d") = .ok 1416423599999 := by
    rw [evaluate_now written]
    rfl
  have onUtc : evaluate .utc (now.later 18000) true ("now" ++ "/d+1d") = .ok 1416441599999 := by
    rw [evaluate_now written]
    rfl
  refine ⟨by decide, written, .of_ok inZone, .of_ok onUtc, ?_⟩
  obtain ⟨value, expected, _, zone, utc, _, _, same⟩ :=
    evaluate_fixed_zone (by decide) written (.of_ok inZone) (.of_ok onUtc)
  exact ⟨value, expected, zone, utc, same rfl⟩

/-- Five hours ahead of UTC, the end of the day and then again the end of the day, which should be
the same: the second rounding goes on to the end of the day of UTC. -/
theorem end_of_day_twice :
    let now : Moment := ⟨1416306615000000, some 0⟩
    evaluate (.fixed 18000) now true ("now" ++ "/d/d") = .ok 1416355199999 ∧
    evaluate .utc (now.later 18000) true ("now" ++ "/d/d") = .ok 1416355199999 ∧
    (1416355199999 : Int) ≠ 1416355199999 - 1000 * 18000 := by
  intro now
  have written : Writes (trimRight "/d/d".toList) [.round .day, .round .day] :=
    .cons rfl (.cons rfl .nil)
  refine ⟨?_, ?_, by decide⟩
  · rw [evaluate_now written]
    rfl
  · rw [evaluate_now written]
    rfl

end DateMath

end PortableSearch.Calendar
