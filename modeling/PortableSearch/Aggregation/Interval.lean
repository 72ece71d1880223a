import PortableSearch.Text.Digit

/-! The intervals of date histograms. An interval is a calendar unit, alone or as one of it, or a
fixed duration. A number of weeks, months, quarters or years is neither. -/
namespace PortableSearch.Aggregation

/-- The intervals that follow the calendar. -/
def calendarIntervals : List String :=
  ["minute", "1m", "hour", "1h", "day", "1d", "week", "1w", "month", "1M", "quarter", "1q",
    "year", "1y"]

/-- The units that have no fixed length. -/
def calendarOnlyUnits : List (List Char) := [['w'], ['M'], ['q'], ['y']]

/-- Without a line feed at the end. -/
def dropFinalNewline (cs : List Char) : List Char :=
  if cs.getLast? = some '\n' then cs.dropLast else cs

/-- The unit of a text that is a number and a unit. -/
def unitOf? (cs : List Char) : Option (List Char) :=
  let (number, unit) := (dropFinalNewline cs).span Text.isDecimalDigit
  if number.isEmpty || unit.isEmpty || !unit.all Char.isAlpha then none else some unit

inductive IntervalKind where
  | calendar
  | fixed
deriving DecidableEq, Repr

/-- The member in which an interval is sent. -/
def IntervalKind.member : IntervalKind → String
  | calendar => "calendar_interval"
  | fixed => "fixed_interval"

/-- The kind of an interval; none for a multiple of a calendar unit. -/
def intervalKind? (interval : String) : Option IntervalKind :=
  if calendarIntervals.contains interval then some .calendar
  else match unitOf? interval.toList with
    | some unit => if calendarOnlyUnits.contains unit then none else some .fixed
    | none => some .fixed

end PortableSearch.Aggregation
