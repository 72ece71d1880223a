import PortableSearch.Proofs.DateMath.FixedZone

/-! Date math on clocks that are never a day or more away from UTC. There an operation fails only
where it leaves the years of the calendar, and the clock that it ends on is again such a one. -/
namespace PortableSearch.Calendar

/-- The offset from UTC is less than a day in either direction. -/
def IsShort (offset : Int) : Prop := offset.natAbs < 86400

/-- All offsets of a table are short. -/
structure ZoneTable.IsSound (t : ZoneTable) : Prop where
  before : IsShort t.before
  standard : IsShort t.standard
  transitions : ∀ c ∈ t.transitions, IsShort c.offset

/-- Both offsets of a rule are short, and it changes the clock in months that a year has. -/
structure YearlyRule.IsSound (r : YearlyRule) : Prop where
  standard : IsShort r.standard
  daylight : IsShort r.daylight
  start : r.start.month ≤ 12
  stop : r.stop.month ≤ 12

/-- The zone can tell its offset at every reading of its clock. -/
def Zone.IsSound : Zone → Prop
  | .utc => True
  | .fixed offset => IsShort offset
  | .table t => t.IsSound
  | .yearly r => r.IsSound

/-- The computation fails only where it leaves the years of the calendar. -/
abbrev Stays {α : Type} (r : Except Fault α) : Prop := Yields r fun _ => True

theorem checkWall_stays (wall : Int) : Stays (checkWall wall) :=
  (checkWall_yields wall).weaken fun _ _ => trivial

theorem ZoneTable.IsSound.offsetAfter {t : ZoneTable} (sound : t.IsSound) (passed : Nat) :
    IsShort (t.offsetAfter passed) := by
  unfold ZoneTable.offsetAfter
  split
  · exact sound.standard
  · cases passed with
    | zero => exact sound.before
    | succ k =>
      cases found : t.transitions[k]? with
      | none => simpa [found] using sound.standard
      | some c => simpa [found] using sound.transitions c (List.mem_of_getElem? found)

theorem YearlyChange.wallIn_stays {c : YearlyChange} (month : c.month ≤ 12) (year : Int) :
    Stays (c.wallIn year) := by
  have inYear : ¬ 12 < max c.month 1 := by omega
  simp only [wallIn, inYear, if_false]
  refine (checkWall_stays _).bind fun wall _ => ?_
  cases c.weekday with
  | none => trivial
  | some target => exact checkWall_stays _

namespace YearlyRule
variable {r : YearlyRule}

theorem IsSound.changesAround (sound : r.IsSound) (wall : Int) : Stays (r.changesAround wall) :=
  (YearlyChange.wallIn_stays sound.start _).bind fun _ _ =>
    (YearlyChange.wallIn_stays sound.stop _).bind fun _ _ => trivial

theorem isRepeated_stays (r : YearlyRule) (stop wall : Int) : Stays (r.isRepeated stop wall) := by
  unfold isRepeated
  split
  · trivial
  · exact (checkWall_stays _).bind fun _ _ => trivial

theorem IsSound.offsetIf (sound : r.IsSound) (daylight : Bool) : IsShort (r.offsetIf daylight) := by
  cases daylight with
  | false => exact sound.standard
  | true => exact sound.daylight

theorem IsSound.offsetAt (sound : r.IsSound) (wall : Int) (fold : Bool) :
    Yields (r.offsetAt wall fold) IsShort := by
  refine (sound.changesAround wall).bind fun changes _ => ?_
  dsimp only
  split
  · exact sound.daylight
  · exact (r.isRepeated_stays _ wall).bind fun repeated _ => sound.offsetIf _

theorem IsSound.ofUtc (sound : r.IsSound) (utc : Int) : Stays (r.ofUtc utc) := by
  refine (sound.changesAround utc).bind fun changes _ => ?_
  refine (checkWall_stays _).bind fun start _ => (checkWall_stays _).bind fun stop _ => ?_
  refine (checkWall_stays _).bind fun wall _ => ?_
  dsimp only
  split
  · trivial
  · exact (sound.changesAround wall).bind fun _ _ =>
      (r.isRepeated_stays _ wall).bind fun _ _ => trivial

end YearlyRule

namespace Zone
variable {z : Zone}

theorem IsSound.statedOffset (sound : z.IsSound) (r : Reading) :
    Yields (z.statedOffset r) IsShort := by
  cases z with
  | utc => show IsShort 0; unfold IsShort; decide
  | fixed offset => exact sound
  | table t =>
    show IsShort (t.offsetAt r)
    unfold ZoneTable.offsetAt
    dsimp only
    split <;> exact ZoneTable.IsSound.offsetAfter sound _
  | yearly y => exact YearlyRule.IsSound.offsetAt sound r.wall r.fold

theorem IsSound.offsetAt (sound : z.IsSound) (r : Reading) : Stays (z.offsetAt r) := by
  refine (sound.statedOffset r).bind fun offset short => ?_
  rw [IsShort] at short
  rw [if_pos short]
  trivial

theorem IsSound.instantOf (sound : z.IsSound) (r : Reading) : Stays (z.instantOf r) :=
  (sound.offsetAt r).map fun _ _ => trivial

theorem IsSound.toUtc (sound : z.IsSound) (r : Reading) : Stays (z.toUtc r) := by
  have checked := (sound.instantOf r).bind fun instant _ => checkWall_stays instant
  cases z with
  | utc => trivial
  | fixed | table | yearly => exact checked

theorem IsSound.ofUtc (sound : z.IsSound) (utc : Int) : Stays (z.ofUtc utc) := by
  cases z with
  | utc => trivial
  | fixed offset => exact (checkWall_stays _).map fun _ _ => trivial
  | table t => exact (checkWall_stays _).map fun _ _ => trivial
  | yearly y => exact (YearlyRule.IsSound.ofUtc sound utc).map fun _ _ => trivial

theorem IsSound.resolve (sound : z.IsSound) (r : Reading) : Stays (z.resolve r) := by
  have back := (sound.toUtc r).bind fun utc _ => sound.ofUtc utc
  cases z with
  | utc => trivial
  | fixed | table | yearly =>
    refine back.bind fun there _ => ?_
    split
    · trivial
    · refine (checkWall_stays _).bind fun later _ => (checkWall_stays _).bind fun earlier _ => ?_
      refine (sound.offsetAt _).bind fun after _ => (sound.offsetAt _).bind fun before _ => ?_
      exact (checkWall_stays _).bind fun wall _ => trivial

end Zone

namespace DateMath

/-- The computation fails only where it leaves the years of the calendar, and its result is on a
sound clock. -/
abbrev StaysSound (r : Except Calendar.Fault Anchor) : Prop := Yields r (·.zone.IsSound)

variable {a : Anchor}

theorem onSound {zone : Zone} {r : Except Calendar.Fault Reading} (sound : zone.IsSound)
    (stays : Stays r) : StaysSound (r >>= fun reading => .ok ⟨zone, reading⟩) :=
  stays.bind fun _ _ => sound

theorem shift_sound (sound : a.zone.IsSound) (amount : Int) (unit : TimeUnit) :
    StaysSound (a.shift amount unit) := by
  have onClock : ∀ wall, StaysSound (a.zone.resolve ⟨wall, false⟩ >>= fun reading =>
      .ok ⟨a.zone, reading⟩) :=
    fun wall => onSound sound (sound.resolve _)
  cases unit with
  | year | month => exact (shiftMonths_yields _ _).bind fun wall _ => onClock wall
  | week | day => exact (checkWall_stays _).bind fun wall _ => onClock wall
  | hour | minute | second =>
    exact (sound.toUtc _).bind fun utc _ => (checkWall_stays _).bind fun later _ =>
      onSound sound (sound.ofUtc later)

theorem floorReading_stays (unit : TimeUnit) (r : Reading) : Stays (floorReading unit r) := by
  cases unit with
  | week => exact (checkWall_stays _).map fun _ _ => trivial
  | _ => trivial

theorem round_sound (sound : a.zone.IsSound) (roundUp : Bool) (unit : TimeUnit) :
    StaysSound (a.round roundUp unit) := by
  refine ((floorReading_stays unit _).bind fun r _ => sound.resolve r).bind fun floor _ => ?_
  cases roundUp with
  | false => exact sound
  | true =>
    refine (shift_sound (a := ⟨a.zone, floor⟩) sound 1 unit).bind fun next soundNext => ?_
    refine (Zone.IsSound.toUtc soundNext _).bind fun utc _ => ?_
    exact (checkWall_stays _).bind fun last _ => trivial

theorem apply_sound (sound : a.zone.IsSound) (roundUp : Bool) (op : Operation) :
    StaysSound (a.apply roundUp op) := by
  cases op with
  | shift amount unit => exact shift_sound sound amount unit
  | round unit => exact round_sound sound roundUp unit

theorem anchorAt_sound {zone : Zone} (sound : zone.IsSound) (now : Moment) :
    StaysSound (anchorAt zone now) :=
  (checkWall_stays _).bind fun utc _ => onSound sound (sound.ofUtc utc)

theorem epochMillis_stays (sound : a.zone.IsSound) : Stays a.epochMillis :=
  (sound.instantOf a.reading).map fun _ _ => trivial

end DateMath

end PortableSearch.Calendar
