import PortableSearch.Proofs.DateMath.Operations

/-! Date math where the offset from UTC is the same at all times. There every operation is a
function on wall times: no wall time is skipped or repeated, and an operation fails only where it
leaves the years of the calendar. The one operation that changes the clock is rounding up, which
goes over to the clock of UTC. -/
namespace PortableSearch.Calendar
variable {α β : Type}

/-- The faults of a computation that leaves the years of the calendar. -/
def Fault.LeavesYears (fault : Fault) : Prop := fault = .beyondCalendar ∨ fault = .noSuchYear

/-- A computation leaves the years of the calendar, or has a result with the property. -/
def Yields (r : Except Fault α) (property : α → Prop) : Prop :=
  match r with
  | .ok result => property result
  | .error fault => fault.LeavesYears

namespace Yields

theorem bind {r : Except Fault α} {f : α → Except Fault β} {P : α → Prop} {Q : β → Prop}
    (first : Yields r P) (rest : ∀ x, P x → Yields (f x) Q) : Yields (r >>= f) Q := by
  cases r with
  | error fault => exact first
  | ok x => exact rest x first

theorem map {r : Except Fault α} {f : α → β} {P : α → Prop} {Q : β → Prop}
    (first : Yields r P) (rest : ∀ x, P x → Q (f x)) : Yields (r.map f) Q := by
  cases r with
  | error fault => exact first
  | ok x => exact rest x first

theorem weaken {r : Except Fault α} {P Q : α → Prop} (yields : Yields r P)
    (implies : ∀ x, P x → Q x) : Yields r Q := by
  cases r with
  | error fault => exact yields
  | ok x => exact implies x yields

end Yields

theorem checkWall_yields (wall : Int) : Yields (checkWall wall) (· = wall) := by
  unfold checkWall
  split
  · rfl
  · exact .inl rfl

namespace Zone

/-- The zone has this offset from UTC, in seconds, at all times. -/
inductive HasOffset : Zone → Int → Prop where
  | utc : HasOffset .utc 0
  | fixed {offset} : offset.natAbs < 86400 → HasOffset (.fixed offset) offset

variable {z : Zone} {offset : Int}

theorem instantOf_hasOffset (has : z.HasOffset offset) (r : Reading) :
    z.instantOf r = .ok (r.wall - offset * microsPerSecond) := by
  cases has with
  | utc => rfl
  | fixed small => simp [instantOf, offsetAt, statedOffset, bind, Except.bind, small]; rfl

theorem toUtc_yields (has : z.HasOffset offset) (r : Reading) :
    Yields (z.toUtc r) (· = r.wall - offset * microsPerSecond) := by
  have instant := instantOf_hasOffset has r
  cases has with
  | utc => simp [toUtc, Yields]
  | fixed small =>
    simp only [toUtc, instant]
    exact checkWall_yields _

theorem ofUtc_yields (has : z.HasOffset offset) (utc : Int) :
    Yields (z.ofUtc utc) (· = ⟨utc + offset * microsPerSecond, false⟩) := by
  cases has with
  | utc => simp [ofUtc, Yields]
  | fixed small => exact (checkWall_yields _).map fun wall same => by rw [same]

/-- Every wall time occurs on the clock. -/
theorem resolve_yields (has : z.HasOffset offset) (r : Reading) : Yields (z.resolve r) (· = r) := by
  have back : Yields (z.toUtc r >>= z.ofUtc) (·.wall = r.wall) :=
    (toUtc_yields has r).bind fun utc atUtc =>
      (ofUtc_yields has utc).weaken fun back shown => by rw [shown, atUtc]; simp
  cases has with
  | utc => rfl
  | fixed small =>
    refine back.bind fun back same => ?_
    simp only [same, if_true]
    rfl

end Zone

/-- Whether an operation goes over to the clock of UTC. -/
def Operation.leavesZone (roundUp : Bool) : Operation → Bool
  | .shift .. => false
  | .round _ => roundUp

namespace DateMath

/-- The wall time that so many units lead to, whether or not the calendar has it. -/
def shiftWall (amount : Int) (unit : TimeUnit) (wall : Int) : Except Calendar.Fault Int :=
  match unit with
  | .year => shiftMonths (12 * amount) wall
  | .month => shiftMonths amount wall
  | .week | .day | .hour | .minute | .second => .ok (wall + amount * unit.micros)

/-- The first wall time of the unit that contains a wall time. -/
def floorWall (unit : TimeUnit) (wall : Int) : Int :=
  match unit with
  | .year => wallOf ⟨(dateOfWall wall).year, 1, 1⟩ ⟨0, 0, 0, 0⟩
  | .month => wallOf ⟨(dateOfWall wall).year, (dateOfWall wall).month, 1⟩ ⟨0, 0, 0, 0⟩
  | .week => (dayOfWall wall - weekday (dayOfWall wall)) * microsPerDay
  | .day | .hour | .minute | .second => wall - wall % unit.micros

/-- What an operation makes of a wall time. -/
def onWall (roundUp : Bool) (wall : Int) : Operation → Except Calendar.Fault Int
  | .shift amount unit => shiftWall amount unit wall
  | .round unit =>
    if roundUp then (shiftWall 1 unit (floorWall unit wall)).map (· - 1000)
    else .ok (floorWall unit wall)

/-- What operations make of a wall time, one after the other. -/
def allOnWall (roundUp : Bool) (wall : Int) (ops : List Operation) : Except Calendar.Fault Int :=
  ops.foldlM (onWall roundUp) wall

section Run
variable {roundUp : Bool} {wall later : Int} {op : Operation} {ops first : List Operation}

theorem allOnWall_cons (step : onWall roundUp wall op = .ok later) (ops : List Operation) :
    allOnWall roundUp wall (op :: ops) = allOnWall roundUp later ops := by
  rw [allOnWall, List.foldlM_cons, step]
  rfl

theorem allOnWall_append (reached : allOnWall roundUp wall first = .ok later)
    (ops : List Operation) :
    allOnWall roundUp wall (first ++ ops) = allOnWall roundUp later ops := by
  rw [allOnWall] at reached
  rw [allOnWall, List.foldlM_append, reached]
  rfl

end Run

/-- An anchor shows a wall time on a clock with this offset from UTC. -/
structure Anchor.Shows (a : Anchor) (offset wall : Int) : Prop where
  hasOffset : a.zone.HasOffset offset
  reading : a.reading = ⟨wall, false⟩

variable {z : Zone} {a : Anchor} {offset wall : Int}

theorem shiftMonths_yields (months wall : Int) :
    Yields (shiftMonths months wall) fun later => shiftMonths months wall = .ok later := by
  unfold shiftMonths
  dsimp only
  split
  · exact .inl rfl
  · split
    · exact .inr rfl
    · rfl

/-- On the wall clock and on the timeline a span leads to the same wall time, since the offset is
the same before and after it. -/
theorem shift_yields (shows : a.Shows offset wall) (amount : Int) (unit : TimeUnit) :
    Yields (a.shift amount unit) fun next =>
      ∃ later, shiftWall amount unit wall = .ok later ∧ next.Shows offset later := by
  obtain ⟨zone, reading⟩ := a
  obtain ⟨has, rfl⟩ := shows
  have shown : ∀ later, shiftWall amount unit wall = .ok later →
      ∃ later', shiftWall amount unit wall = .ok later' ∧
        Anchor.Shows ⟨zone, ⟨later, false⟩⟩ offset later' :=
    fun later shifted => ⟨later, shifted, has, rfl⟩
  have onClock : ∀ later, shiftWall amount unit wall = .ok later →
      Yields (zone.resolve ⟨later, false⟩ >>= fun reading => .ok (⟨zone, reading⟩ : Anchor))
        fun next => ∃ later, shiftWall amount unit wall = .ok later ∧ next.Shows offset later :=
    fun later shifted => (Zone.resolve_yields has _).bind fun reading same =>
      same ▸ shown later shifted
  -- The way through UTC takes the offset off and puts the same one back.
  have onTimeline : ∀ span, shiftWall amount unit wall = .ok (wall + span) →
      Yields (zone.toUtc ⟨wall, false⟩ >>= fun utc => checkWall (utc + span) >>= fun utc =>
        zone.ofUtc utc >>= fun reading => .ok (⟨zone, reading⟩ : Anchor))
        fun next => ∃ later, shiftWall amount unit wall = .ok later ∧ next.Shows offset later := by
    intro span shifted
    refine (Zone.toUtc_yields has _).bind fun utc atUtc => ?_
    refine (checkWall_yields _).bind fun later moved => ?_
    refine (Zone.ofUtc_yields has later).bind fun reading back => ?_
    have there : later + offset * microsPerSecond = wall + span := by
      rw [moved, atUtc]
      dsimp only
      omega
    rw [back, there]
    exact shown _ shifted
  cases unit with
  | year | month => exact (shiftMonths_yields _ wall).bind onClock
  | week | day =>
    exact (checkWall_yields _).bind fun later moved => onClock later (by rw [moved]; rfl)
  | hour | minute | second => exact onTimeline _ rfl

theorem floorReading_yields (unit : TimeUnit) (wall : Int) :
    Yields (floorReading unit ⟨wall, false⟩) (· = ⟨floorWall unit wall, false⟩) := by
  cases unit with
  | week => exact (checkWall_yields _).map fun first same => by rw [same]; rfl
  | _ => rfl

theorem round_yields (shows : a.Shows offset wall) (roundUp : Bool) (unit : TimeUnit) :
    Yields (a.round roundUp unit) fun next =>
      ∃ later, onWall roundUp wall (.round unit) = .ok later ∧
        if roundUp then next.Shows 0 (later - offset * microsPerSecond)
        else next.Shows offset later := by
  obtain ⟨zone, reading⟩ := a
  obtain ⟨has, rfl⟩ := shows
  have floored : Yields (floorReading unit ⟨wall, false⟩ >>= zone.resolve)
      (· = ⟨floorWall unit wall, false⟩) :=
    (floorReading_yields unit wall).bind fun first same => same ▸ Zone.resolve_yields has first
  refine floored.bind fun floor same => ?_
  subst same
  cases roundUp with
  | false => exact ⟨_, rfl, has, rfl⟩
  | true =>
    have first : Anchor.Shows ⟨zone, ⟨floorWall unit wall, false⟩⟩ offset (floorWall unit wall) :=
      ⟨has, rfl⟩
    refine (shift_yields first 1 unit).bind fun next ⟨later, shifted, shown⟩ => ?_
    refine (Zone.toUtc_yields shown.hasOffset _).bind fun utc atUtc => ?_
    refine (checkWall_yields _).bind fun last before => ?_
    have there : utc - 1000 = later - 1000 - offset * microsPerSecond := by
      rw [atUtc, shown.reading]
      dsimp only
      omega
    exact ⟨later - 1000, by simp [onWall, shifted, Except.map], .utc, by rw [before, there]⟩

/-- Every operation does on a clock with a fixed offset what it does on wall times; it stays on
that clock, unless it rounds up. -/
theorem apply_yields (shows : a.Shows offset wall) (roundUp : Bool) (op : Operation) :
    Yields (a.apply roundUp op) fun next =>
      ∃ later, onWall roundUp wall op = .ok later ∧
        if op.leavesZone roundUp then next.Shows 0 (later - offset * microsPerSecond)
        else next.Shows offset later := by
  cases op with
  | shift amount unit => exact shift_yields shows amount unit
  | round unit => exact round_yields shows roundUp unit

end DateMath

end PortableSearch.Calendar
