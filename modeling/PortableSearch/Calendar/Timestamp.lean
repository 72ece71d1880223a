import PortableSearch.Calendar.Iso
import PortableSearch.Decimal.Nearest

/-! Moments written as texts or numbers. A text is a date, with or without a time of day and an
offset, or a number; a number counts seconds since 1970-01-01T00:00 UTC or, if it is large,
milliseconds. -/
namespace PortableSearch.Calendar

/-- Why a text or number is no moment. -/
inductive TimestampFault where
  | unreadable
  /-- The moment lies outside the calendar. -/
  | outside
deriving DecidableEq, Repr

/-- The largest number that counts seconds. -/
def largestSeconds : Nat := 20000000000

namespace Moment

/-- The moment of a wall time that is in the calendar. -/
def within (wall : Int) (offset : Option Int) : Except TimestampFault Moment :=
  ((checkWall wall).map fun w => ⟨w, offset⟩).mapError fun _ => .outside

/-- The moment of a number, so many microseconds later. Numbers reach back to the year 1600. -/
def ofTimestamp (n : Int) (micros : Nat) : Except TimestampFault Moment :=
  let unit := if n.natAbs ≤ largestSeconds then microsPerSecond else 1000
  let wall := n * unit + micros
  if wall < wallOf ⟨1600, 1, 1⟩ ⟨0, 0, 0, 0⟩ then .error .outside else within wall (some 0)

/-- The moment of a double: of the integer below it, with the fraction of its magnitude as
microseconds. -/
def ofDouble (x : Float) : Except TimestampFault Moment :=
  let magnitude := x.abs
  if magnitude < 1e17 then
    let micros := ((magnitude - magnitude.floor) * 1000000.0).round
    ofTimestamp x.floor.toInt64.toInt micros.toUInt32.toNat
  else .error .outside

end Moment

/-- The minus signs of an offset: the hyphen and U+2212. -/
def minusSigns : List Char := ['-', Char.ofNat 0x2212]

/-- Reads an offset in seconds that ends the text: the letter `Z`, or a sign, two digits for the
hours and two for the minutes. -/
def readFinalOffset : List Char → Option (Option Int)
  | [] => some none
  | ['Z'] | ['z'] => some (some 0)
  | sign :: cs => do
    guard (sign = '+' || minusSigns.contains sign)
    let (hours, rest) ← readPlaces 2 cs
    let (minutes, rest) ← readPlaces 2 (match rest with
      | ':' :: rest => rest
      | rest => rest)
    guard (rest.isEmpty && hours < 24 && minutes < 60)
    let total : Int := (3600 * hours + 60 * minutes : Nat)
    return some (if sign = '+' then total else -total)

/-- Reads the time of day and offset after a date; without them it is midnight on a clock of
unknown offset. -/
def readTimeOfDay : List Char → Option (Clock × Option Int)
  | [] => some (⟨0, 0, 0, 0⟩, none)
  | mark :: cs => do
    guard (['T', 't', ' ', '_'].contains mark)
    let (hour, rest) ← readPlaces 2 cs
    let (minute, rest) ← readMark [':'] rest >>= readPlaces 2
    let (second, rest) ← readPart rest
    let (micro, rest) ← if second.isSome then readFraction rest else some (0, rest)
    let clock : Clock := ⟨hour, minute, second.getD 0, micro⟩
    guard (decide clock.IsValid)
    return (clock, ← readFinalOffset rest)

/-- Reads a date whose month has such a day. -/
def readDay (cs : List Char) : Option (Date × List Char) := do
  let (year, rest) ← readPlaces 4 cs
  let (month, rest) ← readMark ['-'] rest >>= readPlaces 2
  let (day, rest) ← readMark ['-'] rest >>= readPlaces 2
  guard (1 ≤ month && month ≤ 12 && 1 ≤ day && day ≤ daysInMonth year month)
  return (⟨year, month, day⟩, rest)

/-- Reads a date and a time of day. -/
def readDateAndTime (cs : List Char) : Option (Int × Option Int) := do
  let (date, rest) ← readDay cs
  let (clock, offset) ← readTimeOfDay rest
  return (wallOf date clock, offset)

/-- The moment of a text of digits, with a sign in front or without, and with a point after them
or without. -/
def momentOfNumber? (cs : List Char) : Option Moment := do
  let (negative, rest) := match cs with
    | '-' :: rest => (true, rest)
    | '+' :: rest => (false, rest)
    | rest => (false, rest)
  let (whole, rest) := rest.span (· != '.')
  let n ← Text.readRun? whole
  if rest.isEmpty then
    (Moment.ofTimestamp (if negative then -(n : Int) else n) 0).toOption
  else
    let fraction := rest.drop 1
    let digits ← Text.readDigitsFrom n fraction
    (Moment.ofDouble (Decimal.ofDigits negative digits (-fraction.length))).toOption

/-- The moment that a text writes. -/
def Moment.ofText (cs : List Char) : Except TimestampFault Moment :=
  if cs.all fun c => c.toNat < 0x80 || minusSigns.contains c then
    match readDateAndTime cs with
    | some (wall, offset) => within wall offset
    | none =>
      match momentOfNumber? cs with
      | some m => .ok m
      | none => .error .unreadable
  else .error .unreadable

end PortableSearch.Calendar
