import PortableSearch.Calendar.DateMath.Anchor
import PortableSearch.Calendar.Written
import PortableSearch.Calendar.Zone.Names
import PortableSearch.Text.Blank

/-! Date-math expressions. An expression is `now` or an absolute date, and operations after it;
an absolute date is separated from its operations by `||`. Operations apply from left to right,
and each is read before it is applied. -/
namespace PortableSearch.Calendar.DateMath

/-- Reads and applies the operations of a text from left to right. -/
def applyText (roundUp : Bool) (a : Anchor) (math : List Char) : Except Fault Anchor :=
  match math with
  | [] => .ok a
  | operator :: cs =>
    match read : readOperation operator cs with
    | .error e => .error e
    | .ok (op, rest) =>
      match a.apply roundUp op with
      | .error e => .error (.calendar e)
      | .ok next =>
        have : rest.length < cs.length + 1 := Nat.lt_succ_of_lt (readOperation_length read)
        applyText roundUp next rest
termination_by math.length

/-- The reading of a zone's clock at a moment. -/
def anchorAt (zone : Zone) (m : Moment) : Except Calendar.Fault Anchor := do
  return ⟨zone, ← zone.ofUtc (← checkWall m.utc)⟩

/-- Digits alone are milliseconds since 1970 from this length on, and a date below it. -/
def leastMillisDigits : Nat := 9

/-- The anchor that an absolute date means. A date with an offset is a moment; one without is a
wall time of the zone, moved over a gap where the clock skips it. -/
def readAnchor (zone : Zone) (cs : List Char) : Except Fault Anchor :=
  if cs.all Text.isDigit && leastMillisDigits ≤ cs.length then
    match Text.readNat? cs with
    | none => .error .unreadableNumber
    | some millis => (anchorAt zone ⟨millis * 1000, none⟩).mapError .calendar
  else match Written.read cs with
    | .error fault => .error (.date fault)
    | .ok ⟨wall, none⟩ =>
      ((zone.resolve ⟨wall, false⟩).map fun r => ⟨zone, r⟩).mapError .calendar
    | .ok ⟨wall, some offset⟩ =>
      ((Zone.fixed offset).toUtc ⟨wall, false⟩ >>= fun utc =>
        (zone.ofUtc utc).map fun r => ⟨zone, r⟩).mapError .calendar

/-- Splits at the first double bar; the text after it is empty where there is none. -/
def splitDate : List Char → List Char × List Char
  | [] => ([], [])
  | '|' :: '|' :: rest => ([], rest)
  | c :: rest => let (date, math) := splitDate rest; (c :: date, math)

/-- Milliseconds since 1970-01-01T00:00 UTC of an anchor, rounded toward the past. -/
def Anchor.epochMillis (a : Anchor) : Except Calendar.Fault Int :=
  (a.zone.instantOf a.reading).map (· / 1000)

/-- The anchor and the operations of an expression without blanks at its ends. -/
def readExpression (zone : Zone) (now : Moment) (cs : List Char) :
    Except Fault (Anchor × List Char) :=
  match cs with
  | [] => .error (.malformed .emptyExpression)
  | 'n' :: 'o' :: 'w' :: math => ((anchorAt zone now).map (·, math)).mapError .calendar
  | cs =>
    let (date, math) := splitDate cs
    (readAnchor zone (Text.trimEnds Text.isBlank date)).map (·, math)

/-- The value of an expression, in milliseconds since 1970-01-01T00:00 UTC. -/
def evaluate (zone : Zone) (now : Moment) (roundUp : Bool) (expression : String) :
    Except Fault Int := do
  let (anchor, math) ← readExpression zone now (Text.trimEnds Text.isBlank expression.toList)
  let result ← applyText roundUp anchor math
  result.epochMillis.mapError .calendar

end PortableSearch.Calendar.DateMath
