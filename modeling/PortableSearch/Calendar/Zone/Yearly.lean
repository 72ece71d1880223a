import PortableSearch.Calendar.Civil

/-! Zones whose clock is set forward and back by the same rule every year. Both changes are counted
on the clock of standard time. -/
namespace PortableSearch.Calendar

/-- A day and a time of the year at which a clock is changed. -/
structure YearlyChange where
  /-- January if it is zero. -/
  month : Nat
  /-- Cut to the length of the month; the first if it is zero. -/
  day : Nat
  /-- The day counts one less after the end of February in a leap year. -/
  skipsLeapDay : Bool := false
  /-- A weekday, Monday being zero, to which the day moves: onward to the first, second and so on
  or, if that number is negative, back. -/
  weekday : Option (Nat × Int) := none
  /-- Seconds after the beginning of the day. -/
  seconds : Int
deriving DecidableEq, Repr

/-- How many days lie between a day of the week and the `nth` such weekday from it on, itself
included; to the past if `nth` is negative. No number counts as the first. -/
def weekdayJump (current target nth : Int) : Int :=
  if nth < 0 then -((-nth - 1) * 7 + (current - target) % 7)
  else (max nth 1 - 1) * 7 + (target - current) % 7

/-- The wall time of a change in a year. The time of day is added before the day moves to a
weekday. -/
def YearlyChange.wallIn (c : YearlyChange) (year : Int) : Except Fault Int := do
  let month := max c.month 1
  if 12 < month then throw .noSuchMonth
  let date : Date := ⟨year, month, min (daysInMonth year month) (max c.day 1)⟩
  let skipped : Int := if c.skipsLeapDay && 2 < month && isLeap year then 1 else 0
  let wall ← checkWall ((date.dayNumber - skipped) * microsPerDay + c.seconds * microsPerSecond)
  match c.weekday with
  | none => return wall
  | some (target, nth) =>
    checkWall (wall + weekdayJump (Calendar.weekday (dayOfWall wall)) target nth * microsPerDay)

/-- Standard time, and daylight time from one change to another. -/
structure YearlyRule where
  standard : Int
  daylight : Int
  start : YearlyChange
  stop : YearlyChange
deriving DecidableEq, Repr

namespace YearlyRule

/-- The changes in the year of a wall time. -/
def changesAround (r : YearlyRule) (wall : Int) : Except Fault (Int × Int) := do
  let year := (dateOfWall wall).year
  return (← r.start.wallIn year, ← r.stop.wallIn year)

/-- Whether a time lies between the start and the stop, which may be in the next year. -/
def isBetween (start stop time : Int) : Bool :=
  if start < stop then start ≤ time && time < stop else !(stop ≤ time && time < start)

/-- The microseconds by which the clock is set forward. -/
def lead (r : YearlyRule) : Int := (r.daylight - r.standard) * microsPerSecond

/-- Whether a wall time lies in the stretch that setting the clock back repeats; a stretch that has
begun has to end in the calendar. -/
def isRepeated (r : YearlyRule) (stop wall : Int) : Except Fault Bool := do
  if wall < stop then return false
  return wall < (← checkWall (stop + r.lead))

def offsetIf (r : YearlyRule) (daylight : Bool) : Int :=
  if daylight then r.daylight else r.standard

/-- The offset at a wall time; the fold tells the second occurrence of one that is repeated. -/
def offsetAt (r : YearlyRule) (wall : Int) (fold : Bool) : Except Fault Int := do
  let (start, stop) ← r.changesAround wall
  if isBetween start stop wall then return r.daylight
  let repeated ← r.isRepeated stop wall
  return r.offsetIf (repeated && !fold)

/-- The wall time at a UTC time, and whether it is the second occurrence. -/
def ofUtc (r : YearlyRule) (utc : Int) : Except Fault (Int × Bool) := do
  let (start, stop) ← r.changesAround utc
  let start ← checkWall (start - r.standard * microsPerSecond)
  let stop ← checkWall (stop - r.standard * microsPerSecond)
  let daylight := isBetween start stop utc
  let wall ← checkWall (utc + r.offsetIf daylight * microsPerSecond)
  if daylight then return (wall, false)
  else
    let (_, stop) ← r.changesAround wall
    return (wall, ← r.isRepeated stop wall)

end YearlyRule

end PortableSearch.Calendar
