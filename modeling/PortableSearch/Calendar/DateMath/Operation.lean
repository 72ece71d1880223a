import PortableSearch.Text.Digit
import PortableSearch.Calendar.Written.Parts

/-! The operations of date math and how they are read: `+N` and `-N` with a unit, where a missing
number is one, and `/` with a unit. -/
namespace PortableSearch.Calendar

inductive TimeUnit where
  | year
  | month
  | week
  | day
  | hour
  | minute
  | second
deriving DecidableEq, Repr

/-- The letters of the units. -/
def TimeUnit.ofChar? : Char → Option TimeUnit
  | 'y' => some .year
  | 'M' => some .month
  | 'w' => some .week
  | 'd' => some .day
  | 'h' | 'H' => some .hour
  | 'm' => some .minute
  | 's' => some .second
  | _ => none

/-- The length of a unit that always has the same one; years and months do not count. -/
def TimeUnit.micros : TimeUnit → Int
  | .week => 7 * microsPerDay
  | .day => microsPerDay
  | .hour => 3600 * microsPerSecond
  | .minute => 60 * microsPerSecond
  | _ => microsPerSecond

/-- One operation of an expression. -/
inductive Operation where
  | shift (amount : Int) (unit : TimeUnit)
  | round (unit : TimeUnit)
deriving DecidableEq, Repr

namespace DateMath

/-- What is wrong with the text of an expression. -/
inductive Reason where
  | emptyExpression
  | unexpectedOperator (c : Char)
  | missingUnit
  | roundingTakesNoAmount
  | unknownUnit (c : Char)
deriving DecidableEq, Repr

def Reason.text : Reason → String
  | emptyExpression => "empty expression"
  | unexpectedOperator c => "unexpected operator '" ++ c.toString ++ "'"
  | missingUnit => "missing unit"
  | roundingTakesNoAmount => "rounding does not take an amount"
  | unknownUnit c => "unknown unit '" ++ c.toString ++ "'"

/-- The message for an expression. -/
def Reason.message (expression : String) (reason : Reason) : String :=
  "Invalid date math expression '" ++ expression ++ "': " ++ reason.text

/-- Why an expression has no value. -/
inductive Fault where
  /-- The text is not an expression. -/
  | malformed (reason : Reason)
  /-- The absolute date cannot be read. -/
  | date (fault : Written.Fault)
  /-- A run of digits does not write a number. -/
  | unreadableNumber
  /-- The computation leaves the calendar. -/
  | calendar (fault : Calendar.Fault)
deriving DecidableEq, Repr

/-- Reads the digits before a unit, if there are any. -/
def readAmount (cs : List Char) : Except Fault (Option Nat × List Char) :=
  let digits := cs.takeWhile Text.isDigit
  if digits.isEmpty then .ok (none, cs)
  else match Text.readNat? digits with
    | some n => .ok (some n, cs.dropWhile Text.isDigit)
    | none => .error .unreadableNumber

/-- Reads one operation; gives it with the rest of the text. -/
def readOperation (operator : Char) (cs : List Char) : Except Fault (Operation × List Char) :=
  if operator = '+' || operator = '-' || operator = '/' then do
    let (amount, rest) ← readAmount cs
    match rest with
    | [] => .error (.malformed .missingUnit)
    | letter :: rest =>
      if operator = '/' && amount.isSome then .error (.malformed .roundingTakesNoAmount)
      else match TimeUnit.ofChar? letter with
        | none => .error (.malformed (.unknownUnit letter))
        | some unit =>
          if operator = '/' then .ok (.round unit, rest)
          else
            let step : Int := amount.getD 1
            .ok (.shift (if operator = '-' then -step else step) unit, rest)
  else .error (.malformed (.unexpectedOperator operator))

theorem readAmount_length {cs rest : List Char} {amount : Option Nat}
    (h : readAmount cs = .ok (amount, rest)) : rest.length ≤ cs.length := by
  unfold readAmount at h
  simp only at h
  split at h
  · cases h; exact Nat.le_refl _
  · split at h
    · cases h; exact (List.dropWhile_sublist _).length_le
    · cases h

theorem readOperation_length {operator : Char} {cs rest : List Char} {op : Operation}
    (h : readOperation operator cs = .ok (op, rest)) : rest.length < cs.length := by
  unfold readOperation at h
  split at h
  · cases read : readAmount cs with
    | error e => simp [read, bind, Except.bind] at h
    | ok p =>
      obtain ⟨amount, tail⟩ := p
      have bound := readAmount_length read
      simp only [read, bind, Except.bind] at h
      cases tail with
      | nil => simp at h
      | cons letter tail =>
        simp only at h
        split at h
        · cases h
        · split at h
          · cases h
          · split at h <;> (cases h; exact Nat.lt_of_succ_le bound)
  · cases h

end DateMath

end PortableSearch.Calendar
