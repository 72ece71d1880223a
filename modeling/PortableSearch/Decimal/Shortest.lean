/-! The shortest decimal that reads back as a given double. A finite double is
`significand * 2 ^ exponent`; the reals that round to it form an interval around it, ends included
when the significand is even. For one digit, two digits and so on the two neighbours of the double
on that decimal grid are tested against the interval: the first grid with a hit wins, of two hits
the nearer one, and an exact tie goes to the even digit. How the digits are laid out is a separate
record. -/
namespace PortableSearch.Decimal

/-- A positive finite double, as a whole number of units `2 ^ exponent`. `lowerHalf` says that the
gap below is half the gap above, which is so at the powers of two. -/
structure Binary where
  significand : Nat
  exponent : Int
  lowerHalf : Bool
deriving DecidableEq, Repr

/-- Reads the magnitude bits of a finite double. -/
def Binary.ofMagnitude (bits : Nat) : Binary :=
  let biased : Nat := bits / Nat.pow 2 52
  let fraction : Nat := bits % Nat.pow 2 52
  if biased = 0 then ⟨fraction, -1074, false⟩
  else ⟨Nat.pow 2 52 + fraction, (biased : Int) - 1075, fraction == 0 && 1 < biased⟩

/-- A decimal `digits * 10 ^ exponent`. -/
structure Shortest where
  digits : Nat
  exponent : Int
deriving DecidableEq, Repr

namespace Binary

/-- A quarter of the unit, as a ratio: the interval's ends are whole numbers of it. -/
def quarterUnit (b : Binary) : Nat × Nat :=
  (Nat.pow 2 (b.exponent - 2).toNat, Nat.pow 2 (2 - b.exponent).toNat)

/-- The lower end of the interval, the double and the upper end, in quarter units. -/
def quarters (b : Binary) : Nat × Nat × Nat :=
  (4 * b.significand - (if b.lowerHalf then 1 else 2), 4 * b.significand, 4 * b.significand + 2)

/-- Whether the decimal lies in the interval of reals that round to the double. -/
def holds (b : Binary) (d : Shortest) : Bool :=
  let (num, den) := b.quarterUnit
  let (low, _, high) := b.quarters
  let point := d.digits * Nat.pow 10 d.exponent.toNat * den
  let scale := num * Nat.pow 10 (-d.exponent).toNat
  if b.significand % 2 = 0 then low * scale ≤ point && point ≤ high * scale
  else low * scale < point && point < high * scale

/-- Twice the distance of the double from the lower neighbour on a grid, against the grid's
step: less, equal or greater. -/
def compareMiddle (b : Binary) (lower : Shortest) : Ordering :=
  let (num, den) := b.quarterUnit
  let (_, mid, _) := b.quarters
  let step := Nat.pow 10 lower.exponent.toNat * den
  let scale := num * Nat.pow 10 (-lower.exponent).toNat
  compare (2 * (mid * scale - lower.digits * step)) step

/-- The number of digits before the decimal point, zero or negative below one tenth. -/
def decimalOrder (b : Binary) : Int :=
  let (num, den) := b.quarterUnit
  let (_, mid, _) := b.quarters
  ((Nat.toDigits 10 (mid * num * Nat.pow 10 330 / den)).length : Int) - 330

/-- The best decimal with so many digits, if one of the two neighbours is in the interval. -/
def withDigits? (b : Binary) (count : Nat) : Option Shortest :=
  let (num, den) := b.quarterUnit
  let (_, mid, _) := b.quarters
  let place := b.decimalOrder - count
  let floor := mid * num * Nat.pow 10 (-place).toNat / (den * Nat.pow 10 place.toNat)
  let lower : Shortest := ⟨floor, place⟩
  let upper : Shortest := ⟨floor + 1, place⟩
  match b.holds lower, b.holds upper with
  | true, true =>
    match b.compareMiddle lower with
    | .lt => some lower
    | .gt => some upper
    | .eq => if floor % 2 = 0 then some lower else some upper
  | true, false => some lower
  | false, true => some upper
  | false, false => none

end Binary

/-- Without trailing zeros, so that each number has one form. -/
def Shortest.normal (fuel : Nat) (d : Shortest) : Shortest :=
  match fuel with
  | 0 => d
  | fuel + 1 =>
    if d.digits ≠ 0 && d.digits % 10 = 0 then Shortest.normal fuel ⟨d.digits / 10, d.exponent + 1⟩
    else d

/-- The shortest decimal that reads back; seventeen digits always suffice. -/
def Binary.shortest (b : Binary) : Shortest :=
  let found := (List.range 17).findSome? fun i => b.withDigits? (i + 1)
  (found.getD ⟨b.significand, 0⟩).normal 20

/-- How digits are laid out: where positional notation begins and ends, by the power of ten of
the first digit, how many digits an exponent has at least, and the spellings of the values that
are no numbers. -/
structure Layout where
  leastPositional : Int
  firstScientific : Int
  exponentDigits : Nat
  nan : String
  infinity : String

namespace Layout

/-- Zeros in front, up to a width. -/
def padLeft (width : Nat) (cs : List Char) : List Char :=
  List.replicate (width - cs.length) '0' ++ cs

/-- The digits with a decimal point after so many of them and at least one digit on each side. -/
def positional (digits : List Char) (point : Int) : List Char :=
  if point ≤ 0 then ['0', '.'] ++ List.replicate (-point).toNat '0' ++ digits
  else
    let whole := digits.take point.toNat
    let rest := digits.drop point.toNat
    whole ++ List.replicate (point.toNat - digits.length) '0' ++ '.' ::
      (if rest.isEmpty then ['0'] else rest)

/-- One digit before the point, the exponent of ten with its sign after the letter. -/
def scientific (layout : Layout) (digits : List Char) (power : Int) : List Char :=
  let fraction := digits.drop 1
  digits.take 1 ++ (if fraction.isEmpty then [] else '.' :: fraction) ++
    ['e', if power < 0 then '-' else '+'] ++
    padLeft layout.exponentDigits (Nat.toDigits 10 power.natAbs)

/-- The text of a positive decimal. -/
def decimal (layout : Layout) (d : Shortest) : List Char :=
  let digits := Nat.toDigits 10 d.digits
  let point := digits.length + d.exponent
  if layout.leastPositional < point && point ≤ layout.firstScientific then positional digits point
  else layout.scientific digits (point - 1)

/-- The text of a double. -/
def render (layout : Layout) (x : Float) : String :=
  let bits := x.toBits.toNat
  let magnitude := bits % Nat.pow 2 63
  let sign := if bits < Nat.pow 2 63 then [] else ['-']
  if 2047 * Nat.pow 2 52 < magnitude then layout.nan
  else if magnitude = 2047 * Nat.pow 2 52 then String.ofList sign ++ layout.infinity
  else if magnitude = 0 then String.ofList (sign ++ ['0', '.', '0'])
  else String.ofList (sign ++ layout.decimal (Binary.ofMagnitude magnitude).shortest)

end Layout

end PortableSearch.Decimal
