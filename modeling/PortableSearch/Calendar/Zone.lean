import PortableSearch.Calendar.Zone.Yearly

/-! Time zones and the conversion between wall time and UTC. A zone is UTC itself, a fixed
offset, a table of transitions, or a rule for every year. Where the clock was set back a wall time
occurs twice; the fold tells the later occurrence from the earlier one. Where the clock was set
forward a wall time does not occur at all: it survives no round trip through UTC, and `resolve`
moves it over the gap. -/
namespace PortableSearch.Calendar

/-- A change of offset. `instant` is in seconds since 1970-01-01T00:00 UTC, `lead` is added to it
for the wall time at which the change counts, and `offset` holds from then on. -/
structure Transition where
  instant : Int
  lead : Int
  offset : Int
deriving DecidableEq, Repr

/-- The transitions of a place in ascending order, the offset before all of them, and the offset
from the last one on. -/
structure ZoneTable where
  before : Int
  standard : Int
  transitions : List Transition
deriving DecidableEq, Repr

inductive Zone where
  | utc
  | fixed (offset : Int)
  | table (t : ZoneTable)
  | yearly (r : YearlyRule)
deriving DecidableEq, Repr

/-- A reading of a zone's clock: the wall time, and whether it is the second of two
occurrences. -/
structure Reading where
  wall : Int
  fold : Bool
deriving DecidableEq, Repr

namespace ZoneTable

/-- The offset in force after so many transitions. -/
def offsetAfter (t : ZoneTable) (passed : Nat) : Int :=
  if t.transitions.length ≤ passed then t.standard
  else match passed with
    | 0 => t.before
    | k + 1 => (t.transitions[k]?.map (·.offset)).getD t.standard

/-- How many transitions a wall time has passed. -/
def passedByWall (t : ZoneTable) (wall : Int) : Nat :=
  t.transitions.countP fun c => (c.instant + c.lead) * microsPerSecond ≤ wall

/-- How many transitions have happened at a UTC time. -/
def passedByUtc (t : ZoneTable) (utc : Int) : Nat :=
  t.transitions.countP fun c => c.instant * microsPerSecond ≤ utc

/-- Whether a wall time lies in the stretch that the last of the given transitions repeated. The
first transition of a table repeats nothing. -/
def isRepeated (t : ZoneTable) (passed : Nat) (wall : Int) : Bool :=
  match passed with
  | 0 | 1 => false
  | k + 1 =>
    match t.transitions[k]? with
    | some c =>
      wall < (c.instant + c.lead + t.offsetAfter k - t.offsetAfter (k + 1)) * microsPerSecond
    | none => false

/-- The offset that a reading of the clock means. -/
def offsetAt (t : ZoneTable) (r : Reading) : Int :=
  let passed := t.passedByWall r.wall
  if !r.fold && t.isRepeated passed r.wall then t.offsetAfter (passed - 1) else t.offsetAfter passed

end ZoneTable

namespace Zone

/-- The offset from UTC that a zone gives for a reading of the clock, in seconds. -/
def statedOffset : Zone → Reading → Except Fault Int
  | utc, _ => .ok 0
  | fixed offset, _ => .ok offset
  | table t, r => .ok (t.offsetAt r)
  | yearly y, r => y.offsetAt r.wall r.fold

/-- The offset at a reading of the clock, if it is less than a day in either direction. -/
def offsetAt (z : Zone) (r : Reading) : Except Fault Int := do
  let offset ← z.statedOffset r
  if offset.natAbs < 86400 then return offset else throw .offsetTooLarge

/-- Microseconds since 1970-01-01T00:00 UTC at a reading of the clock, wherever they lie. -/
def instantOf (z : Zone) (r : Reading) : Except Fault Int :=
  (z.offsetAt r).map fun offset => r.wall - offset * microsPerSecond

/-- The UTC wall time at a reading of the clock. -/
def toUtc (z : Zone) (r : Reading) : Except Fault Int :=
  match z with
  | utc => .ok r.wall
  | _ => z.instantOf r >>= checkWall

/-- What the clock reads at a UTC wall time. -/
def ofUtc (z : Zone) (wall : Int) : Except Fault Reading :=
  match z with
  | utc => .ok ⟨wall, false⟩
  | fixed offset => (checkWall (wall + offset * microsPerSecond)).map fun w => ⟨w, false⟩
  | table t =>
    let passed := t.passedByUtc wall
    (checkWall (wall + t.offsetAfter passed * microsPerSecond)).map fun w =>
      ⟨w, t.isRepeated passed w⟩
  | yearly r => (r.ofUtc wall).map fun p => ⟨p.1, p.2⟩

/-- A reading that occurs on the clock, unchanged; one that falls into a gap, moved by the
difference of the offsets a day later and a day earlier. -/
def resolve (z : Zone) (r : Reading) : Except Fault Reading :=
  match z with
  | utc => .ok r
  | _ => do
    let back ← z.toUtc r >>= z.ofUtc
    if back.wall = r.wall then return r
    let later ← checkWall (r.wall + microsPerDay)
    let earlier ← checkWall (r.wall - microsPerDay)
    let after ← z.offsetAt ⟨later, false⟩
    let before ← z.offsetAt ⟨earlier, false⟩
    let wall ← checkWall (r.wall + (after - before) * microsPerSecond)
    return ⟨wall, false⟩

end Zone

end PortableSearch.Calendar
