import PortableSearch.Shape.Numeral
import PortableSearch.Value
import PortableSearch.Calendar.Timestamp
import PortableSearch.Decimal.Whole

/-! Scalars read leniently: a number may be written as a text, a double without fraction is an
integer, a flag may be zero or one or a word, a moment may be written as a text or a number, and
bytes stand for the text that they encode. Each reader says which values it takes and which defect
it reports for the others. -/
namespace PortableSearch.Shape

/-- Where a value comes from. The text of a reply differs from data that is already parsed in what
counts as a large integer and in that it may repeat the names of members. -/
inductive Source where
  | data
  | text
deriving DecidableEq, Repr

/-- The value with each name standing once; in data this is so already. -/
def Source.settle : Source → Value → Value
  | data, v => v
  | text, v => v.distinct

/-- The members with each name standing once: at its first place, with its last value. -/
def Source.lastOfEach : Source → Members → Members
  | data, ms => ms
  | text, ms => .ofList ms

def readText : Value → Except Defect String
  | .str s => .ok s
  | .bytes b =>
    match String.fromUTF8? b with
    | some s => .ok s
    | none => .error .notUnicode
  | _ => .error .notText

/-- What a reader of texts gives for a string or for bytes; bytes that are no text have the defect
of a text that cannot be read. -/
def readWritten {α : Type} (unreadable other : Defect) (read : List Char → Except Defect α) :
    Value → Except Defect α
  | .str s => read s.toList
  | .bytes b =>
    match String.fromUTF8? b with
    | some s => read s.toList
    | none => .error unreadable
  | _ => .error other

/-- The integer that a value means. A double is an integer only if 64 bits hold it with its sign. -/
def readInteger : Value → Except Defect Int
  | .int n => .ok n
  | .bool b => .ok (if b then 1 else 0)
  | .float x =>
    match Decimal.Whole.ofFloat x with
    | .integer n => if -Int.pow 2 63 < n && n < Int.pow 2 63 then .ok n else .error .integerTooLarge
    | .fraction => .error .fractional
    | .notFinite => .error .infinite
  | v => readWritten .unreadableInteger .notInteger integerOfText v

/-- The double nearest to an integer. In data an integer beyond all doubles is refused, in a text
it is infinite. -/
def doubleOfInteger (source : Source) (n : Int) : Except Defect Float :=
  match source, Decimal.ofInt? n with
  | _, some x => .ok x
  | .text, none => .ok (Decimal.infinity (n < 0))
  | .data, none => .error .notDouble

/-- The double that a value means. -/
def readDouble (source : Source) : Value → Except Defect Float
  | .float x => .ok x
  | .int n => doubleOfInteger source n
  | .bool b => .ok (if b then 1.0 else 0.0)
  | v => readWritten .unreadableDouble .notDouble (fun cs => (doubleOfText? cs).elim
      (.error .unreadableDouble) .ok) v

def falseWords : List String := ["0", "off", "f", "false", "n", "no"]
def trueWords : List String := ["1", "on", "t", "true", "y", "yes"]

/-- The flag that a word means. -/
def flagOfText (cs : List Char) : Except Defect Bool :=
  let word := lowercase cs
  if falseWords.contains word then .ok false
  else if trueWords.contains word then .ok true
  else .error .unreadableFlag

/-- An integer that cannot even be tried as a flag: in data one beyond 64 bits, in a text one of
nineteen digits or more. -/
def Source.isLarge : Source → Int → Bool
  | data, n => n < -Int.pow 2 63 || Int.pow 2 63 ≤ n
  | text, n => Nat.pow 10 18 ≤ n.natAbs

/-- The flag that a value means. -/
def readFlag (source : Source) : Value → Except Defect Bool
  | .bool b => .ok b
  | .int n =>
    if n = 0 then .ok false
    else if n = 1 then .ok true
    else .error (if source.isLarge n then .notFlag else .unreadableFlag)
  | .float x => if x == 0.0 then .ok false else if x == 1.0 then .ok true else .error .notFlag
  | v => readWritten .unreadableFlag .notFlag flagOfText v

/-- A moment that a text writes. -/
def momentOfText (cs : List Char) : Except Defect Calendar.Moment :=
  (Calendar.Moment.ofText cs).mapError fun
    | .unreadable => .unreadableDate
    | .outside => .unreadableMoment

/-- The moment that a value means. -/
def readMoment : Value → Except Defect Calendar.Moment
  | .moment m => .ok m
  | .int n => (Calendar.Moment.ofTimestamp n 0).mapError fun _ => .unreadableMoment
  | .float x => (Calendar.Moment.ofDouble x).mapError fun _ => .unreadableMoment
  | v => readWritten .unreadableDate .notMoment momentOfText v

end PortableSearch.Shape
