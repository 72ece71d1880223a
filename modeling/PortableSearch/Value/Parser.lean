import PortableSearch.Value
import PortableSearch.Decimal.Nearest
import PortableSearch.Text.Digit

/-! Reading JSON text. Numbers without fraction and exponent are integers of any size up to a
fixed number of digits, others are the nearest double; `NaN`, `Infinity` and `-Infinity` are
accepted. A member name that is repeated keeps its first place and its last value, unless all are
kept. Readers differ in this, in how deep values may nest, in how long numbers may be, and in what
they do with half a surrogate pair. -/
namespace PortableSearch.Value.Parser

/-- What distinguishes one reader of JSON from another. -/
structure Dialect where
  /-- How many lists and objects may be open at once; one that holds nothing does not count. -/
  depth : Nat
  /-- Half a surrogate pair, written as an escape, is read as U+FFFD rather than refused. -/
  toleratesHalfPairs : Bool
  /-- The limit on the length of integers counts the sign, and holds for the whole part of every
  number. -/
  countsSigns : Bool
  /-- Members with a repeated name are all kept. -/
  keepsRepeats : Bool

def isSpace (c : Char) : Bool := c = ' ' || c = '\n' || c = '\r' || c = '\t'

def skipSpace (cs : List Char) : List Char := cs.dropWhile isSpace

def isDigit (c : Char) : Bool := '0' ≤ c && c ≤ '9'

/-! Strings -/

def hexValue? (c : Char) : Option Nat :=
  if '0' ≤ c ∧ c ≤ '9' then some (c.toNat - 0x30)
  else if 'a' ≤ c ∧ c ≤ 'f' then some (c.toNat - 0x57)
  else if 'A' ≤ c ∧ c ≤ 'F' then some (c.toNat - 0x37)
  else none

/-- The code unit that four hexadecimal digits write. -/
def hexUnit? (a b c d : Char) : Option Nat := do
  return (((← hexValue? a) * 16 + (← hexValue? b)) * 16 + (← hexValue? c)) * 16 + (← hexValue? d)

/-- The character of an escape of one letter. -/
def shortEscape? : Char → Option Char
  | '"' => some '"'
  | '\\' => some '\\'
  | '/' => some '/'
  | 'b' => some (Char.ofNat 0x08)
  | 'f' => some (Char.ofNat 0x0C)
  | 'n' => some '\n'
  | 'r' => some '\r'
  | 't' => some '\t'
  | _ => none

def isHighSurrogate (n : Nat) : Bool := 0xD800 ≤ n && n < 0xDC00
def isLowSurrogate (n : Nat) : Bool := 0xDC00 ≤ n && n < 0xE000

/-- The character that a surrogate pair stands for. -/
def pairChar (high low : Nat) : Char :=
  Char.ofNat (0x10000 + (high - 0xD800) * 0x400 + (low - 0xDC00))

/-- The code unit of an escape that the text begins with. -/
def leadingUnit? : List Char → Option Nat
  | '\\' :: 'u' :: a :: b :: c :: d :: _ => hexUnit? a b c d
  | _ => none

/-- Reads the inside of a string and the quotation mark that closes it; gives the characters and
the rest. `skip` is one after the first half of a surrogate pair, whose second half has been read
with it and is passed over. -/
def stringFrom (dialect : Dialect) (skip : Nat) : List Char → Option (List Char × List Char)
  | [] => none
  | '"' :: rest => if skip = 0 then some ([], rest) else none
  | '\\' :: 'u' :: a :: b :: c :: d :: rest =>
    if skip ≠ 0 then stringFrom dialect (skip - 1) rest
    else do
      let unit ← hexUnit? a b c d
      if isHighSurrogate unit then
        match leadingUnit? rest with
        | some low =>
          if isLowSurrogate low then
            (stringFrom dialect 1 rest).map fun r => (pairChar unit low :: r.1, r.2)
          else if dialect.toleratesHalfPairs then
            (stringFrom dialect 0 rest).map fun r => (Char.ofNat 0xFFFD :: r.1, r.2)
          else none
        | none =>
          if dialect.toleratesHalfPairs then
            (stringFrom dialect 0 rest).map fun r => (Char.ofNat 0xFFFD :: r.1, r.2)
          else none
      else if isLowSurrogate unit && !dialect.toleratesHalfPairs then none
      else
        let char := if isLowSurrogate unit then Char.ofNat 0xFFFD else Char.ofNat unit
        (stringFrom dialect 0 rest).map fun r => (char :: r.1, r.2)
  | '\\' :: letter :: rest => do
    let c ← shortEscape? letter
    (stringFrom dialect 0 rest).map fun r => (c :: r.1, r.2)
  | c :: rest =>
    if c.toNat < 0x20 || c = '\\' then none
    else (stringFrom dialect 0 rest).map fun r => (c :: r.1, r.2)

def string (dialect : Dialect) (cs : List Char) : Option (String × List Char) :=
  (stringFrom dialect 0 cs).map fun r => (String.ofList r.1, r.2)

/-! Numbers -/

/-- The digits that the text begins with, at least one. -/
def digits (cs : List Char) : Option (List Char × List Char) :=
  match cs.span isDigit with
  | ([], _) => none
  | found => some found

/-- The whole part of a number: zero, or digits that do not begin with zero. -/
def wholePart : List Char → Option (List Char × List Char)
  | '0' :: rest => some (['0'], rest)
  | cs => digits cs

/-- The digits after a point, if a point follows. -/
def fractionPart : List Char → Option (Option (List Char) × List Char)
  | '.' :: rest => (digits rest).map fun r => (some r.1, r.2)
  | cs => some (none, cs)

/-- The power of ten, if one follows. -/
def exponentPart (cs : List Char) : Option (Option Int × List Char) :=
  match cs with
  | c :: rest =>
    if c = 'e' || c = 'E' then
      let (negative, rest) := match rest with
        | '-' :: r => (true, r)
        | '+' :: r => (false, r)
        | r => (false, r)
      (digits rest).bind fun r => (Text.readDigitsFrom 0 r.1).map fun n =>
        (some (if negative then -(n : Int) else n), r.2)
    else some (none, cs)
  | [] => some (none, [])

/-- Whether a whole part is too long for the reader. -/
def Dialect.refuses (dialect : Dialect) (negative : Bool) (whole : List Char) : Bool :=
  dialect.countsSigns &&
    Text.longestNumeral < whole.length + (if negative then 1 else 0)

/-- Reads a number after its sign. -/
def number (dialect : Dialect) (negative : Bool) (cs : List Char) :
    Option (Value × List Char) := do
  let (whole, rest) ← wholePart cs
  guard (!dialect.refuses negative whole)
  let (fraction, rest) ← fractionPart rest
  let (power, rest) ← exponentPart rest
  if fraction.isNone && power.isNone then
    let n ← Text.readNat? whole
    return (.int (if negative then -(n : Int) else n), rest)
  else
    let places := fraction.getD []
    let n ← Text.readDigitsFrom 0 (whole ++ places)
    return (.float (Decimal.ofDigits negative n (power.getD 0 - places.length)), rest)

/-! Values -/

def infinity (negative : Bool) : Value := .float (Decimal.infinity negative)

/-- Reads a value that is neither a string nor a list nor an object. -/
def scalar (dialect : Dialect) (cs : List Char) : Option (Value × List Char) :=
  match cs with
  | 'n' :: 'u' :: 'l' :: 'l' :: rest => some (.null, rest)
  | 't' :: 'r' :: 'u' :: 'e' :: rest => some (.bool true, rest)
  | 'f' :: 'a' :: 'l' :: 's' :: 'e' :: rest => some (.bool false, rest)
  | 'N' :: 'a' :: 'N' :: rest => some (.float Decimal.nan, rest)
  | 'I' :: 'n' :: 'f' :: 'i' :: 'n' :: 'i' :: 't' :: 'y' :: rest => some (infinity false, rest)
  | '-' :: 'I' :: 'n' :: 'f' :: 'i' :: 'n' :: 'i' :: 't' :: 'y' :: rest =>
    some (infinity true, rest)
  | '-' :: rest => number dialect true rest
  | rest => number dialect false rest

mutual

/-- Reads a value at the start of the text. The fuel bounds the number of values and separators
read; the depth is what remains of the permitted nesting. -/
def value (dialect : Dialect) (fuel depth : Nat) (cs : List Char) : Option (Value × List Char) :=
  match fuel with
  | 0 => none
  | fuel + 1 =>
    match cs with
    | '"' :: rest => (string dialect rest).map fun r => (.str r.1, r.2)
    | '[' :: rest =>
      match skipSpace rest, depth with
      | ']' :: rest, _ => some (.list [], rest)
      | _, 0 => none
      | rest, depth + 1 => (items dialect fuel depth rest).map fun r => (.list r.1, r.2)
    | '{' :: rest =>
      match skipSpace rest, depth with
      | '}' :: rest, _ => some (.obj [], rest)
      | _, 0 => none
      | rest, depth + 1 =>
        (members dialect fuel depth rest).map fun r =>
          (.obj (if dialect.keepsRepeats then r.1 else Members.ofList r.1), r.2)
    | cs => scalar dialect cs

/-- Reads values with commas between them, and the bracket that closes them. -/
def items (dialect : Dialect) (fuel depth : Nat) (cs : List Char) :
    Option (List Value × List Char) :=
  match fuel with
  | 0 => none
  | fuel + 1 => do
    let (v, rest) ← value dialect fuel depth cs
    match skipSpace rest with
    | ']' :: rest => return ([v], rest)
    | ',' :: rest =>
      (items dialect fuel depth (skipSpace rest)).map fun r => (v :: r.1, r.2)
    | _ => none

/-- Reads members with commas between them, and the brace that closes them. -/
def members (dialect : Dialect) (fuel depth : Nat) (cs : List Char) :
    Option (List (String × Value) × List Char) :=
  match fuel with
  | 0 => none
  | fuel + 1 =>
    match cs with
    | '"' :: rest => do
      let (name, rest) ← string dialect rest
      match skipSpace rest with
      | ':' :: rest =>
        let (v, rest) ← value dialect fuel depth (skipSpace rest)
        match skipSpace rest with
        | '}' :: rest => return ([(name, v)], rest)
        | ',' :: rest =>
          (members dialect fuel depth (skipSpace rest)).map fun r => ((name, v) :: r.1, r.2)
        | _ => none
      | _ => none
    | _ => none

end

/-- Reads a text that holds one value, with blanks around it. -/
def parse? (dialect : Dialect) (cs : List Char) : Option Value :=
  match value dialect (cs.length + 1) dialect.depth (skipSpace cs) with
  | some (v, rest) => if (skipSpace rest).isEmpty then some v else none
  | none => none

end PortableSearch.Value.Parser
