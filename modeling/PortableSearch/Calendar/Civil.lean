/-! Civil dates and wall-clock times of the proleptic Gregorian calendar, years 1 to 9999. A wall
time is a whole number of microseconds since 1970-01-01T00:00 on the local clock, so that the
distance of two wall times on one clock is their difference; dates are a view of it. -/
namespace PortableSearch.Calendar

/-- Why a calendar computation has no result. -/
inductive Fault where
  /-- Time was added to or taken from a date and the result is outside the years 1 to 9999. -/
  | beyondCalendar
  /-- A date was asked for in a year that the calendar does not have. -/
  | noSuchYear
  /-- The offset of a zone is a whole day or more. -/
  | offsetTooLarge
  /-- The rule of a zone names a month that no year has. -/
  | noSuchMonth
deriving DecidableEq, Repr

def isLeap (year : Int) : Bool :=
  year % 4 == 0 && (year % 100 != 0 || year % 400 == 0)

/-- The lengths of the twelve months of a year. -/
def monthLengths (year : Int) : List Nat :=
  [31, if isLeap year then 29 else 28, 31, 30, 31, 30, 31, 31, 30, 31, 30, 31]

/-- The length of a month given by its number; no month has the number zero or thirteen, and
those have no days. -/
def daysInMonth (year : Int) (month : Nat) : Nat :=
  if month = 0 then 0 else (monthLengths year).getD (month - 1) 0

def firstYear : Int := 1
def lastYear : Int := 9999

/-- A civil date; months and days count from one. -/
structure Date where
  year : Int
  month : Nat
  day : Nat
deriving DecidableEq, Repr

/-- The date exists in the calendar. -/
def Date.IsValid (d : Date) : Prop :=
  firstYear ≤ d.year ∧ d.year ≤ lastYear ∧ 1 ≤ d.month ∧ d.month ≤ 12 ∧
    1 ≤ d.day ∧ d.day ≤ daysInMonth d.year d.month

instance (d : Date) : Decidable d.IsValid := by
  unfold Date.IsValid; infer_instance

/-- Days from the first day of year 1 to the first day of the given year. -/
def daysBeforeYear (year : Int) : Int :=
  let past := year - 1
  365 * past + past / 4 - past / 100 + past / 400

/-- Days from the first day of year 1 to 1970-01-01. -/
def epochDay : Int := 719162

/-- Days since 1970-01-01. -/
def Date.dayNumber (d : Date) : Int :=
  let daysBeforeMonth : Nat := ((monthLengths d.year).take (d.month - 1)).foldl (· + ·) 0
  daysBeforeYear d.year + daysBeforeMonth + (d.day - 1 : Int) - epochDay

/-- The year that contains the day so many days after the first day of year 1. The mean length
of a year gives it up to one. -/
def yearOfDay (days : Int) : Int :=
  let guess := days * 400 / 146097 + 1
  if days < daysBeforeYear guess then guess - 1
  else if daysBeforeYear (guess + 1) ≤ days then guess + 1
  else guess

/-- The month and the day of the month that lie so many days after the start of the first of the
given months. -/
def splitMonth (month : Nat) : List Nat → Nat → Nat × Nat
  | [], rest => (month, rest + 1)
  | length :: lengths, rest =>
    if rest < length then (month, rest + 1) else splitMonth (month + 1) lengths (rest - length)

/-- The date that is so many days after 1970-01-01. -/
def Date.ofDayNumber (number : Int) : Date :=
  let days := number + epochDay
  let year := yearOfDay days
  let (month, day) := splitMonth 1 (monthLengths year) (days - daysBeforeYear year).toNat
  ⟨year, month, day⟩

/-- Days since the last Monday, for the day so many days after 1970-01-01. -/
def weekday (dayNumber : Int) : Int :=
  (dayNumber + 3) % 7

def microsPerSecond : Int := 1000000
def microsPerDay : Int := 86400 * microsPerSecond

/-- The first wall time of year 1. -/
def firstWall : Int := -62135596800 * microsPerSecond

/-- The last wall time of year 9999. -/
def lastWall : Int := 253402300800 * microsPerSecond - 1

/-- The spans of time that can be calculated with, in seconds: those of a number of days with at
most nine digits. -/
def isSpan (seconds : Int) : Bool :=
  -999999999 * 86400 ≤ seconds && seconds < 1000000000 * 86400

/-- The wall time itself, if it lies in the calendar. -/
def checkWall (wall : Int) : Except Fault Int :=
  if firstWall ≤ wall ∧ wall ≤ lastWall then .ok wall else .error .beyondCalendar

/-- A time of day. -/
structure Clock where
  hour : Nat
  minute : Nat
  second : Nat
  micro : Nat
deriving DecidableEq, Repr

def Clock.IsValid (c : Clock) : Prop :=
  c.hour < 24 ∧ c.minute < 60 ∧ c.second < 60 ∧ c.micro < 1000000

instance (c : Clock) : Decidable c.IsValid := by
  unfold Clock.IsValid; infer_instance

/-- Microseconds since midnight. -/
def Clock.micros (c : Clock) : Int :=
  (3600 * c.hour + 60 * c.minute + c.second : Nat) * microsPerSecond + c.micro

def Clock.ofMicros (micros : Nat) : Clock :=
  let seconds := micros / 1000000
  ⟨seconds / 3600, seconds / 60 % 60, seconds % 60, micros % 1000000⟩

/-- The number of the day that contains a wall time. -/
def dayOfWall (wall : Int) : Int := wall / microsPerDay

/-- The date of a wall time. -/
def dateOfWall (wall : Int) : Date := .ofDayNumber (dayOfWall wall)

/-- Microseconds since the midnight before a wall time. -/
def timeOfWall (wall : Int) : Int := wall % microsPerDay

/-- The time of day of a wall time. -/
def clockOfWall (wall : Int) : Clock := .ofMicros (timeOfWall wall).toNat

/-- The wall time at the given time of day of a date. -/
def wallOf (d : Date) (c : Clock) : Int := d.dayNumber * microsPerDay + c.micros

/-- The wall time of a date and time that both exist. -/
def wallOf? (d : Date) (c : Clock) : Option Int :=
  if d.IsValid ∧ c.IsValid then some (wallOf d c) else none

/-- A wall time together with the offset from UTC of its clock, in seconds, where that is known. -/
structure Moment where
  wall : Int
  offset : Option Int
deriving DecidableEq, Repr

/-- Microseconds since 1970-01-01T00:00 UTC; a moment without an offset is read as UTC. -/
def Moment.utc (m : Moment) : Int :=
  m.wall - m.offset.getD 0 * microsPerSecond

/-- Whole milliseconds since 1970-01-01T00:00 UTC, rounded toward the past. -/
def Moment.epochMillis (m : Moment) : Int := m.utc / 1000

end PortableSearch.Calendar
