import PortableSearch.Calendar.Zone
import PortableSearch.Text.Digit

/-! Zones written as an abbreviation with an offset, such as `AAA5`, and with a second abbreviation
for daylight time, such as `AAA5BBB,M3.2.0,M11.1.0`. Offsets count westward, except after `GMT` and
`UTC`. Daylight time is an hour ahead unless it has an offset of its own. It lasts from the first
Sunday of April to the last Sunday of October unless a rule follows: two dates in the manner of
`M3.2.0/2` or `J60` or `59`, or one of numbers between commas. -/
namespace PortableSearch.Calendar.Zone

/-- Why a name is not that of a zone. -/
inductive NameFault where
  | unknown
  /-- The offset is longer than any span of time. -/
  | offsetTooLong
  /-- An offset that has to be there is not. -/
  | offsetMissing
deriving DecidableEq, Repr

namespace Posix

abbrev Token := List Char

inductive CharClass where
  | letter
  | digit
  | mark
  | other
deriving DecidableEq

def classOf (c : Char) : CharClass :=
  if c.isAlpha then .letter
  else if c.isDigit then .digit
  else if c = ',' || c = ':' || c = '.' then .mark
  else .other

/-- The tokens: marks by themselves, and runs of letters, of digits and of other characters. -/
def tokens (cs : List Char) : List Token :=
  cs.splitBy fun a b => classOf a = classOf b && classOf a ≠ .mark

/-! Abbreviations and offsets -/

/-- A token that can be part of an abbreviation. -/
def isNameToken (t : Token) : Bool :=
  !t.any fun c => c.isDigit || [':', ',', '-', '+'].contains c

/-- A token with which an offset begins. -/
def opensOffset (t : Token) : Bool := t = ['+'] || t = ['-'] || t.head?.any Char.isDigit

/-- Reads hours, perhaps with minutes: as four digits, or with a colon between them. -/
def readHours? : List Token → Option (Int × List Token)
  | [] => none
  | t :: ts =>
    if t.length = 4 then do
      let hours ← Text.readNat? (t.take 2)
      let minutes ← Text.readNat? (t.drop 2)
      return ((3600 * hours + 60 * minutes : Nat), ts)
    else match ts with
      | [':'] :: ts => do
        let hours ← Text.readNat? t
        let minutes ← ts.head?.bind Text.readNat?
        return ((3600 * hours + 60 * minutes : Nat), ts.drop 1)
      | ts =>
        if t.length ≤ 2 then (Text.readNat? t).map fun hours => ((3600 * hours : Nat), ts)
        else none

/-- Reads an offset, in seconds east of UTC. -/
def readOffset? : List Token → Option (Int × List Token)
  | ['-'] :: ts => readHours? ts
  | ['+'] :: ts => (readHours? ts).map fun r => (-r.1, r.2)
  | ts => (readHours? ts).map fun r => (-r.1, r.2)

/-- Standard time and daylight time, each with an abbreviation and an offset. -/
structure Names where
  standard : Token := []
  offset : Option Int := none
  daylight : Token := []
  daylightOffset : Option Int := none

/-- Reads abbreviations with offsets, until both are known or an abbreviation has none. An offset
without an abbreviation counts for daylight time. -/
def Names.read? (fuel : Nat) (n : Names) (ts : List Token) : Option (Names × List Token) :=
  match fuel with
  | 0 => some (n, ts)
  | fuel + 1 =>
    if ts.isEmpty then some (n, ts)
    else
      let name := (ts.takeWhile isNameToken).flatten
      let rest := ts.dropWhile isNameToken
      let isOffset := rest.head?.any opensOffset
      if n.standard.isEmpty then
        let n := { n with standard := name }
        if name.isEmpty then none
        else if isOffset then do
          let (offset, rest) ← readOffset? rest
          Names.read? fuel { n with offset := some offset } rest
        else some (n, rest)
      else
        let n := { n with daylight := name }
        if isOffset then do
          let (offset, rest) ← readOffset? rest
          let n := { n with daylightOffset := some offset }
          if name.isEmpty then Names.read? fuel n rest else return (n, rest)
        else some (n, rest)

/-! Rules -/

/-- The day of a change. -/
inductive RuleDay where
  | unstated
  | ofMonth (month day : Nat) (weekday : Option (Nat × Int))
  /-- The first of January is one. -/
  | ofYear (day : Nat)
  /-- The same without the leap day. -/
  | ofCommonYear (day : Nat)

structure RuleDate where
  day : RuleDay := .unstated
  /-- Seconds after the beginning of the day. -/
  seconds : Option Int := none

/-- What follows the names: the two dates, and how far daylight time is ahead if that is said. -/
structure Rule where
  start : RuleDate := {}
  stop : RuleDate := {}
  lead : Option Int := none

/-- The weekday of a number: Sunday is zero and seven, and Monday comes first in the calendar. -/
def weekdayOf (n : Nat) : Nat := (n + 6) % 7

/-- The weekday of a month, so many weeks into it; a negative number counts from the end. -/
def inMonth (month : Nat) (week : Int) (weekday : Nat) : RuleDay :=
  .ofMonth month (if 0 < week then 1 else 31) (some (weekdayOf weekday, week))

def isRuleMark (t : Token) : Bool := t = ['-'] || t = ['.']

/-- Reads the day of a date. The fifth week is the last. -/
def readDay? : List Token → Option (RuleDay × List Token)
  | ['J'] :: day :: ts => (Text.readNat? day).map fun n => (.ofCommonYear n, ts)
  | ['M'] :: month :: mark :: week :: next :: weekday :: ts => do
    guard (isRuleMark mark && isRuleMark next)
    let month ← Text.readNat? month
    let week ← Text.readNat? week
    let weekday ← Text.readNat? weekday
    return (inMonth month (if week = 5 then -1 else week) weekday, ts)
  | day :: ts => (Text.readNat? day).map fun n => (.ofYear (n + 1), ts)
  | [] => none

/-- Reads the time of a date, if there is one. Seconds may follow minutes after a colon. -/
def readTime? : List Token → Option (Option Int × List Token)
  | ['/'] :: ts => do
    let (seconds, rest) ← readHours? ts
    match ts, rest with
    | hours :: [':'] :: _, [':'] :: more =>
      if hours.length = 4 then return (some seconds, rest)
      let n ← more.head?.bind Text.readNat?
      return (some (seconds + n), more.drop 1)
    | _, _ => return (some seconds, rest)
  | ts => some (none, ts)

def readDate? (ts : List Token) : Option (RuleDate × List Token) := do
  let (day, ts) ← readDay? ts
  let (seconds, ts) ← readTime? ts
  return (⟨day, seconds⟩, ts)

/-- Reads two dates with a comma between them. -/
def readDates? (ts : List Token) : Option Rule := do
  let (start, ts) ← readDate? ts
  guard (ts.head? = some [','])
  let (stop, ts) ← readDate? (ts.drop 1)
  guard ts.isEmpty
  return { start, stop }

/-- Reads a date of numbers between commas: the month; the week, or zero; the weekday, or the day of
the month after a zero; and the seconds. -/
def readNumbers? : List Token → Option (RuleDate × List Token)
  | month :: [','] :: ts => do
    let (negative, ts) := match ts with
      | ['-'] :: ts => (true, ts)
      | ts => (false, ts)
    match ts with
    | week :: [','] :: day :: [','] :: seconds :: ts =>
      let month ← Text.readNat? month
      let week ← Text.readNat? week
      let day ← Text.readNat? day
      let seconds ← Text.readNat? seconds
      guard (ts.isEmpty || ts.head? = some [','])
      let week : Int := if negative then -(week : Int) else week
      let day := if week = 0 then .ofMonth month day none else inMonth month week day
      return (⟨day, some (seconds : Int)⟩, ts.drop 1)
    | _ => none
  | _ => none

/-- Reads how far daylight time is ahead, if that is said, up to the end. -/
def readLead? (ts : List Token) : Option (Option Int) :=
  let (negative, number) := match ts with
    | ['-'] :: ts => (true, ts)
    | ['+'] :: ts => (false, ts)
    | ts => (false, ts)
  match ts, number with
  | [], _ => some none
  | _, [] => none
  | _, t :: rest => do
    let n ← Text.readNat? t
    guard (rest.all (· = [',']))
    return some (if negative then -(n : Int) else n)

/-- Reads two dates of numbers. -/
def readAllNumbers? (ts : List Token) : Option Rule := do
  let (start, ts) ← readNumbers? ts
  let (stop, ts) ← readNumbers? ts
  return { start, stop, lead := ← readLead? ts }

def isNumberToken (t : Token) : Bool := t.all fun c => c.isDigit || c = '+' || c = '-'

def isDateToken (t : Token) : Bool :=
  ["/", "J", "M", ".", "-", ":"].contains (String.ofList t) || t.all Char.isDigit

/-- Reads the rule after the names: its form follows from the number of commas. -/
def readRule? (ts : List Token) : Option Rule :=
  match ts.map fun t => if t = [';'] then [','] else t with
  | [] => some {}
  | [','] :: [] => some {}
  | [','] :: ts =>
    let commas := ts.countP (· = [','])
    let others := ts.filter (· ≠ [','])
    if (commas = 7 || commas = 8) && others.all isNumberToken then readAllNumbers? ts
    else if commas = 1 && others.countP (· = ['/']) ≤ 2 && others.all isDateToken then
      readDates? ts
    else if others.all (· = [':']) then some {}
    else none
  | _ => none

/-- The last days of the months in a year of 365 days, with one more at the end. -/
def monthEnds : List Nat := [31, 59, 90, 120, 151, 181, 212, 243, 273, 304, 334, 366]

/-- The month and the day of a day of the year. -/
def monthOf? (day : Nat) : Option (Nat × Nat) :=
  (monthEnds.findIdx? (day ≤ ·)).map fun i =>
    (i + 1, day - (if i = 0 then 0 else monthEnds.getD (i - 1) 0))

/-- The change at a date. The leap day moves a day of the year that does not count it. -/
def RuleDate.change? (d : RuleDate) (unstated : YearlyChange) (lead : Int) :
    Option YearlyChange :=
  let seconds := d.seconds.getD 7200 - lead
  match d.day with
  | .unstated => some { unstated with seconds }
  | .ofMonth month day weekday => some { month, day, weekday, seconds }
  | .ofYear n => (monthOf? n).map fun (month, day) =>
    { month, day, skipsLeapDay := 59 < n, seconds }
  | .ofCommonYear n =>
    if n = 0 then some { month := 1, day := 1, seconds }
    else (monthOf? n).map fun (month, day) => { month, day, seconds }

/-- The first Sunday of April. -/
def usualStart : YearlyChange := { month := 4, day := 1, weekday := some (6, 1), seconds := 0 }

/-- The last Sunday of October. -/
def usualStop : YearlyChange := { month := 10, day := 31, weekday := some (6, -1), seconds := 0 }

/-- Whether a date says no more than the beginning of the year. -/
def RuleDate.isNothing (d : RuleDate) : Bool :=
  match d.day, d.seconds with
  | .ofCommonYear 0, some 0 => true
  | _, _ => false

/-- The zone of two offsets and a rule. The stop is on the clock of daylight time. -/
def zoneOf (hasDaylight : Bool) (standard daylight : Int) (rule : Rule) : Option Zone :=
  if !hasDaylight || rule.start.isNothing then some (.fixed standard)
  else do
    let start ← rule.start.change? usualStart 0
    let stop ← rule.stop.change? usualStop (daylight - standard)
    return .yearly ⟨standard, daylight, start, stop⟩

/-- The abbreviations of UTC. -/
def isUtc (name : Token) : Bool := ["GMT", "UTC"].contains (String.ofList name)

/-- The offset of standard time; after an abbreviation of UTC its sign is turned. -/
def Names.standardOffset (n : Names) : Except NameFault (Option Int) :=
  if isUtc n.standard then
    match n.offset with
    | some offset => .ok (some (-offset))
    | none => .error .offsetMissing
  else .ok n.offset

/-- The offset of daylight time as far as it is said: of its own or by a rule. -/
def Names.daylightSaid (n : Names) (rule : Rule) : Except NameFault (Option Int) :=
  match rule.lead, n.offset with
  | some lead, some offset => .ok (some (offset + lead))
  | some _, none => .error .offsetMissing
  | none, _ => .ok n.daylightOffset

/-- The zone of names and a rule. -/
def zone (n : Names) (rule : Rule) : Except NameFault Zone := do
  let said ← n.daylightSaid rule
  let offset ← n.standardOffset
  let standard := offset.getD 0
  let hasDaylight := !n.daylight.isEmpty
  let daylight := said.getD (if hasDaylight && offset.isSome then standard + 3600 else 0)
  if [standard, daylight, daylight - standard].all isSpan then
    (zoneOf hasDaylight standard daylight rule).elim (.error .unknown) .ok
  else throw .offsetTooLong

end Posix

/-- The zone of an abbreviation with an offset. -/
def ofPosix (cs : List Char) : Except NameFault Zone :=
  let ts := Posix.tokens cs
  match (Posix.Names.read? (ts.length + 1) {} ts) with
  | none => .error .unknown
  | some (names, rest) =>
    match Posix.readRule? rest with
    | none => .error .unknown
    | some rule => Posix.zone names rule

end PortableSearch.Calendar.Zone
