import PortableSearch.Calendar.DateMath.Operation
import PortableSearch.Calendar.Zone

/-! The arithmetic of date math. Calendar units move an anchor on the wall clock of its zone, and
hours, minutes and seconds move it on the timeline. Rounding goes to the start of a unit or, when
rounding up, to its last millisecond. -/
namespace PortableSearch.Calendar.DateMath

/-- A reading of the clock of a zone, from which operations start. -/
structure Anchor where
  zone : Zone
  reading : Reading
deriving DecidableEq, Repr

/-- The wall time so many months later at the same time of day; the day of the month is cut to
the length of that month. A year beyond 32 bits is out of reach of the calendar, a nearer one
that it does not have is refused by its number. -/
def shiftMonths (months : Int) (wall : Int) : Except Calendar.Fault Int :=
  let d := dateOfWall wall
  let index := d.year * 12 + (d.month - 1) + months
  let year := index / 12
  if year < -Int.pow 2 31 || Int.pow 2 31 ≤ year then .error .beyondCalendar
  else if year < firstYear || lastYear < year then .error .noSuchYear
  else
    let month := (index % 12).toNat + 1
    let date : Date := ⟨year, month, min d.day (daysInMonth year month)⟩
    .ok (date.dayNumber * microsPerDay + timeOfWall wall)

/-- Moves an anchor by so many units: on the wall clock for days and longer units, and on the
timeline for the shorter ones. -/
def Anchor.shift (a : Anchor) (amount : Int) (unit : TimeUnit) : Except Calendar.Fault Anchor := do
  let reading ← match unit with
    | .year => do a.zone.resolve ⟨← shiftMonths (12 * amount) a.reading.wall, false⟩
    | .month => do a.zone.resolve ⟨← shiftMonths amount a.reading.wall, false⟩
    | .week | .day => do
      a.zone.resolve ⟨← checkWall (a.reading.wall + amount * unit.micros), false⟩
    | .hour | .minute | .second => do
      let utc ← a.zone.toUtc a.reading
      a.zone.ofUtc (← checkWall (utc + amount * unit.micros))
  return ⟨a.zone, reading⟩

/-- The first reading of the unit that contains a reading. -/
def floorReading (unit : TimeUnit) (r : Reading) : Except Calendar.Fault Reading :=
  let d := dateOfWall r.wall
  match unit with
  | .year => .ok ⟨wallOf ⟨d.year, 1, 1⟩ ⟨0, 0, 0, 0⟩, r.fold⟩
  | .month => .ok ⟨wallOf ⟨d.year, d.month, 1⟩ ⟨0, 0, 0, 0⟩, r.fold⟩
  | .week =>
    let day := dayOfWall r.wall
    (checkWall ((day - weekday day) * microsPerDay)).map fun w => ⟨w, false⟩
  | .day | .hour | .minute | .second =>
    .ok ⟨r.wall - r.wall % unit.micros, r.fold⟩

/-- Rounds an anchor to the start of a unit, or up to its last millisecond. The result of rounding
up is on the clock of UTC. -/
def Anchor.round (a : Anchor) (roundUp : Bool) (unit : TimeUnit) :
    Except Calendar.Fault Anchor := do
  let floor ← floorReading unit a.reading >>= a.zone.resolve
  if roundUp then
    let next ← Anchor.shift ⟨a.zone, floor⟩ 1 unit
    let utc ← next.zone.toUtc next.reading
    return ⟨.utc, ⟨← checkWall (utc - 1000), false⟩⟩
  else return ⟨a.zone, floor⟩

/-- Applies one operation. -/
def Anchor.apply (a : Anchor) (roundUp : Bool) : Operation → Except Calendar.Fault Anchor
  | .shift amount unit => a.shift amount unit
  | .round unit => a.round roundUp unit

end PortableSearch.Calendar.DateMath
