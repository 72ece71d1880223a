import PortableSearch.Calendar.Civil
import PortableSearch.Text.Digit

/-! The ISO 8601 text of a moment: `YYYY-MM-DDTHH:MM:SS`, then six digits of a fraction unless it
is zero, then the offset if there is one. Reading accepts in addition a shorter time of day, a
fraction of any length and the letter `Z`. -/
namespace PortableSearch.Calendar

/-- A number with at least so many decimal digits. -/
def paddedDigits (width n : Nat) : List Char :=
  let digits := Nat.toDigits 10 n
  List.replicate (width - digits.length) '0' ++ digits

/-- The fraction of a second, unless it is zero. -/
def fractionText (micro : Nat) : List Char :=
  if micro = 0 then [] else '.' :: paddedDigits 6 micro

/-- Sign, hours and minutes of an offset in seconds, and its seconds unless they are zero. -/
def offsetText (offset : Int) : List Char :=
  let n := offset.natAbs
  let sign := if offset < 0 then '-' else '+'
  sign :: paddedDigits 2 (n / 3600) ++ ':' :: paddedDigits 2 (n / 60 % 60) ++
    (if n % 60 = 0 then [] else ':' :: paddedDigits 2 (n % 60))

def dateText (d : Date) : List Char :=
  paddedDigits 4 d.year.toNat ++ '-' :: paddedDigits 2 d.month ++ '-' :: paddedDigits 2 d.day

def clockText (c : Clock) : List Char :=
  paddedDigits 2 c.hour ++ ':' :: paddedDigits 2 c.minute ++ ':' :: paddedDigits 2 c.second ++
    fractionText c.micro

namespace Moment

/-- Date and time with the given character between them, then the offset. -/
def text (separator : Char) (m : Moment) : List Char :=
  dateText (dateOfWall m.wall) ++ separator :: clockText (clockOfWall m.wall) ++
    (m.offset.map offsetText).getD []

/-- The ISO text. -/
def iso (m : Moment) : String := String.ofList (m.text 'T')

end Moment

/-- Reads so many decimal digits. -/
def readPlaces (count : Nat) (cs : List Char) : Option (Nat × List Char) := do
  guard (count ≤ cs.length)
  let n ← Text.readNat? (cs.take count)
  return (n, cs.drop count)

/-- Reads a character that has to be there. -/
def readMark (marks : List Char) : List Char → Option (List Char)
  | c :: cs => if marks.contains c then some cs else none
  | [] => none

/-- Reads two digits after a colon, or nothing. -/
def readPart (cs : List Char) : Option (Option Nat × List Char) :=
  match cs with
  | ':' :: rest => (readPlaces 2 rest).map fun r => (some r.1, r.2)
  | _ => some (none, cs)

/-- Microseconds of a fraction after a point or comma: the first six digits count. -/
def readFraction (cs : List Char) : Option (Nat × List Char) :=
  match cs with
  | c :: rest =>
    if c = '.' || c = ',' then
      let digits := rest.takeWhile Text.isDecimalDigit
      (Text.readNat? ((digits ++ List.replicate 6 '0').take 6)).bind fun n =>
        if digits.isEmpty then none else some (n, rest.dropWhile Text.isDecimalDigit)
    else some (0, cs)
  | [] => some (0, [])

/-- Reads an offset in seconds that ends the text: `Z`, or a sign, hours, and minutes and
seconds with or without colons. -/
def readOffset : List Char → Option (Option Int)
  | [] => some none
  | ['Z'] => some (some 0)
  | sign :: cs => do
    guard (sign = '+' || sign = '-')
    let digits := cs.filter (· != ':')
    let (hours, rest) ← readPlaces 2 digits
    let (minutes, rest) ← if rest.isEmpty then some (0, []) else readPlaces 2 rest
    let (seconds, rest) ← if rest.isEmpty then some (0, []) else readPlaces 2 rest
    guard rest.isEmpty
    let total : Int := (3600 * hours + 60 * minutes + seconds : Nat)
    guard (total < 86400)
    return some (if sign = '-' then -total else total)

/-- Reads the time of day that follows a date, with its offset. -/
def readClock (cs : List Char) : Option (Clock × Option Int) := do
  let (hour, rest) ← readPlaces 2 cs
  let (minute, rest) ← readPart rest
  let (second, rest) ← readPart rest
  let (micro, rest) ← if second.isSome then readFraction rest else some (0, rest)
  let offset ← readOffset rest
  return (⟨hour, minute.getD 0, second.getD 0, micro⟩, offset)

/-- Reads an ISO text. -/
def Moment.ofIso? (s : String) : Option Moment := do
  let (year, rest) ← readPlaces 4 s.toList
  let rest ← readMark ['-'] rest
  let (month, rest) ← readPlaces 2 rest
  let rest ← readMark ['-'] rest
  let (day, rest) ← readPlaces 2 rest
  let (clock, offset) ←
    if rest.isEmpty then some (⟨0, 0, 0, 0⟩, none) else readMark ['T', ' '] rest >>= readClock
  let wall ← wallOf? ⟨year, month, day⟩ clock
  return ⟨wall, offset⟩

end PortableSearch.Calendar
