import PortableSearch.Shape.Fault
import PortableSearch.Decimal.Nearest
import PortableSearch.Text.Blank
import PortableSearch.Text.Digit

/-! The numbers that a text writes. An integer may have zeros in front and a fraction of zeros, and
both kinds of numbers may have single underscores inside. -/
namespace PortableSearch.Shape

def isAsciiDigit (c : Char) : Bool := '0' ≤ c && c ≤ '9'

/-- The text without its underscores, if it has any, none of them beside another or at an end. -/
def withoutUnderscores? (cs : List Char) : Option (List Char) :=
  let parts := cs.splitOn '_'
  if parts.length = 1 || parts.any List.isEmpty then none else some parts.flatten

/-! Integers -/

/-- Without a plus sign in front; a minus sign may not follow it. -/
def dropPlus : List Char → Option (List Char)
  | '+' :: '-' :: _ => none
  | '+' :: cs => some cs
  | cs => some cs

/-- What follows leading zeros and the underscores among them: digits or a minus sign. The
character before is kept where a point follows or nothing. -/
def skipZeros (before : Char) : List Char → Option (List Char)
  | [] => some [before]
  | c :: cs =>
    if c = '0' || c = '_' then skipZeros c cs
    else if c = '.' then some (before :: c :: cs)
    else if c = '-' || isAsciiDigit c then some (c :: cs)
    else none

/-- Without leading zeros. -/
def dropZeros : List Char → Option (List Char)
  | [] => none
  | c :: cs =>
    if c = '0' then skipZeros c cs
    else if c = '-' || isAsciiDigit c then some (c :: cs)
    else none

/-- Without a point and the zeros after it. -/
def dropZeroFraction (cs : List Char) : List Char :=
  match cs.span (· != '.') with
  | (whole, _ :: zero :: zeros) => if (zero :: zeros).all (· = '0') then whole else cs
  | _ => cs

/-- The integer of digits after an optional minus sign. A text that is too long is told from one
that writes no integer by its digits alone. -/
def integerOfDigits (cs : List Char) : Except Defect Int :=
  let (negative, digits) := match cs with
    | '-' :: digits => (true, digits)
    | digits => (false, digits)
  let run := digits.takeWhile isAsciiDigit
  if 1 < run.length && run.head? = some '0' then .error .unreadableInteger
  else if Text.longestNumeral < run.length + (if negative then 1 else 0) then
    .error .integerTooLarge
  else match Text.readRun? run with
    | some n =>
      if run.length = digits.length then .ok (if negative then -(n : Int) else n)
      else .error .unreadableInteger
    | none => .error .unreadableInteger

/-- The integer that a text writes, with white space around. -/
def integerOfText (cs : List Char) : Except Defect Int :=
  match (dropPlus (Text.trimEnds Text.isWhiteSpace cs)).bind dropZeros with
  | none => .error .unreadableInteger
  | some rest =>
    let digits := dropZeroFraction rest
    integerOfDigits ((withoutUnderscores? digits).getD digits)

/-! Doubles -/

/-- Splits off a sign; says whether it is a minus. -/
def splitSign : List Char → Bool × List Char
  | '-' :: rest => (true, rest)
  | '+' :: rest => (false, rest)
  | cs => (false, cs)

/-- Letters in lower case, for ASCII. -/
def lowercase (cs : List Char) : String := String.ofList (cs.map Char.toLower)

/-- The number that ASCII digits write; none of them write zero. -/
def digitsValue? (cs : List Char) : Option Nat :=
  if cs.all isAsciiDigit then Text.readDigitsFrom 0 cs else none

/-- The power of ten after an `e`, with its sign; zero if nothing follows. -/
def exponentOfText? : List Char → Option Int
  | [] => some 0
  | c :: rest =>
    if c = 'e' || c = 'E' then do
      let (negative, digits) := splitSign rest
      guard (!digits.isEmpty)
      let n ← digitsValue? digits
      return if negative then -(n : Int) else n
    else none

/-- The double that a decimal text writes, without its sign: digits on at least one side of the
point, and an exponent. -/
def decimalOfText? (negative : Bool) (cs : List Char) : Option Float := do
  let (mantissa, power) := cs.span fun c => c != 'e' && c != 'E'
  let (whole, rest) := mantissa.span (· != '.')
  let fraction := rest.drop 1
  guard (!(whole.isEmpty && fraction.isEmpty))
  let n ← digitsValue? (whole ++ fraction)
  let exponent ← exponentOfText? power
  return Decimal.ofDigits negative n (exponent - fraction.length)

/-- The double that a text without underscores writes. -/
def plainDouble? (cs : List Char) : Option Float :=
  let (negative, rest) := splitSign cs
  let word := lowercase rest
  if word = "inf" || word = "infinity" then some (Decimal.infinity negative)
  else if word = "nan" then some Decimal.nan
  else decimalOfText? negative rest

/-- The double that a text writes: with white space around, or with underscores inside. -/
def doubleOfText? (cs : List Char) : Option Float :=
  (plainDouble? (Text.trimEnds Text.isWhiteSpace cs)).or
    ((withoutUnderscores? cs).bind plainDouble?)

end PortableSearch.Shape
