import PortableSearch.Calendar.Civil
import PortableSearch.Calendar.Written.Vocabulary
import PortableSearch.Decimal.Nearest

/-! The numbers of a written date, and which of them is the year, the month and the day. Fractions
of hours and minutes are calculated with a fixed number of significant digits. -/
namespace PortableSearch.Calendar.Written

/-- Why a text is no date. -/
inductive Fault where
  | unreadable
  /-- A number of hours or minutes has more digits before its point than are calculated with. -/
  | tooLong
deriving DecidableEq, Repr

/-- What a text lacks makes it unreadable. -/
instance : MonadLift Option (Except Fault) where
  monadLift o := match o with
    | some a => .ok a
    | none => .error .unreadable

/-- A decimal number: its whole part, and the digits after the point as a number with so many
places. -/
structure Numeral where
  whole : Nat
  fraction : Nat
  places : Nat

/-- Reads digits with at most one point between them. -/
def Numeral.read? (t : Token) : Option Numeral :=
  match t.span (· != '.') with
  | (digits, []) => (Text.readRun? digits).map fun n => ⟨n, 0, 0⟩
  | (digits, _ :: rest) => do
    let whole ← Text.readRun? digits
    let fraction ← Text.readRun? rest
    return ⟨whole, fraction, rest.length⟩

/-- How many significant digits a calculation keeps. -/
def precision : Nat := 28

/-- The fraction `digits / 10 ^ places` with the digits that a calculation keeps, a half rounded to
the even neighbour. -/
def keepDigits (digits places : Nat) : Nat × Nat :=
  let excess := (Nat.toDigits 10 digits).length - precision
  if excess = 0 then (digits, places)
  else (Decimal.roundDiv digits (Nat.pow 10 excess), places - excess)

/-- Whether the whole part can be split off in a calculation. -/
def Numeral.splits (n : Numeral) : Bool := n.whole < Nat.pow 10 precision

/-- Sixtieths of the fraction, rounded down after the digits are cut twice: those of the fraction
and those of its sixtyfold. -/
def Numeral.sixtieths (n : Numeral) : Nat :=
  let (digits, places) := keepDigits n.fraction n.places
  let (digits, places) := keepDigits (60 * digits) places
  digits / Nat.pow 10 places

/-- The number lies between one and a bound, both included. -/
def Numeral.isBetweenOneAnd (bound : Nat) (n : Numeral) : Bool :=
  1 ≤ n.whole && (n.whole < bound || (n.whole == bound && n.fraction == 0))

/-- Seconds with a fraction: the seconds, and the first six digits of the fraction. -/
def readSeconds? (t : Token) : Option (Nat × Nat) :=
  match t.span (· != '.') with
  | (digits, []) => (Text.readNat? digits).map (·, 0)
  | (digits, _ :: rest) => do
    guard (!rest.contains '.')
    let seconds ← Text.readNat? digits
    let micros ← Text.readNat? ((rest ++ List.replicate 6 '0').take 6)
    return (seconds, micros)

/-- What is known about a part of the date before all parts are read. -/
inductive Label where
  | year
  | month
deriving DecidableEq, Repr

/-- The parts of the date in the order in which they are written, and which of them is known to
be the year or the month. `century` says that a year was written in full. -/
structure Parts where
  values : List Nat := []
  yearAt : Option Nat := none
  monthAt : Option Nat := none
  century : Bool := false

namespace Parts

/-- One more part. A long one can only be a year. -/
def add (p : Parts) (value : Nat) (long : Bool) (label : Option Label) : Option Parts := do
  guard (!(long && label = some .month))
  let label := if long then some .year else label
  let place := p.values.length
  let p := { p with values := p.values ++ [value], century := p.century || long }
  match label with
  | some .year => if p.yearAt.isSome then none else some { p with yearAt := some place }
  | some .month => if p.monthAt.isSome then none else some { p with monthAt := some place }
  | none => some p

/-- One more part, given by its digits. -/
def addDigits (p : Parts) (t : Token) (label : Option Label) : Option Parts :=
  (Text.readNat? t).bind fun n => p.add n (2 < t.length && t.all Text.isDigit) label

/-- One more part, given by a number. -/
def addNumeral (p : Parts) (n : Numeral) : Option Parts :=
  p.add n.whole (100 < n.whole || (n.whole == 100 && n.fraction != 0)) none

def addMonth (p : Parts) (month : Nat) : Option Parts := p.add month false (some .month)

/-- One more part, given by the name of a month or by digits. -/
def addNamed (p : Parts) (t : Token) : Option Parts :=
  match monthNamed? t with
  | some month => p.addMonth month
  | none => p.addDigits t none

/-- Whether a number can be the day of the month, as far as the month and year are known. -/
def admitsDay (p : Parts) (n : Numeral) : Bool :=
  match p.monthAt.bind (p.values[·]?) with
  | none => n.isBetweenOneAnd 31
  | some month =>
    match p.yearAt.bind (p.values[·]?) with
    | none => n.isBetweenOneAnd (daysInMonth 2000 month)
    | some year => n.isBetweenOneAnd (daysInMonth year month)

/-- Year, month and day, as far as they are written. Labels decide where they leave no choice;
otherwise a number above 31 is the year, a number above 12 is not the month, and between the
remaining readings the month comes before the day. -/
def assign (p : Parts) : Option (Option Nat × Option Nat × Option Nat) :=
  match p.values, p.yearAt, p.monthAt with
  | [], _, _ => some (none, none, none)
  | [a], some _, none => some (some a, none, none)
  | [a], none, some _ => some (none, some a, none)
  | [a], _, _ => some (if 31 < a then (some a, none, none) else (none, none, some a))
  | [a, b], some y, some _ =>
    some (if y = 0 then (some a, some b, none) else (some b, some a, none))
  | [a, b], none, some m =>
    let (month, other) := if m = 0 then (a, b) else (b, a)
    some (if 31 < other then (some other, some month, none) else (none, some month, some other))
  | [a, b], _, none =>
    some (if 31 < a then (some a, some b, none)
      else if 31 < b then (some b, some a, none)
      else (none, some a, some b))
  | [a, b, c], some y, some m =>
    let part (i : Nat) : Option Nat := [a, b, c][i]?
    some (part y, part m, part (3 - y - m))
  | [a, b, c], y, none =>
    some (if 31 < a || y = some 0 then (some a, some b, some c)
      else if 12 < a then (some c, some b, some a)
      else (some c, some a, some b))
  | [a, b, c], none, some 0 =>
    some (if 31 < b then (some b, some a, some c) else (some c, some a, some b))
  | [a, b, c], none, some 1 =>
    some (if 31 < a then (some a, some b, some c) else (some c, some b, some a))
  | [a, b, c], none, some _ =>
    some (if 31 < b then (some b, some c, some a) else (some a, some c, some b))
  | _, _, _ => none

end Parts

end PortableSearch.Calendar.Written
