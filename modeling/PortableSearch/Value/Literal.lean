import PortableSearch.Value
import PortableSearch.Calendar.Iso
import PortableSearch.Decimal.Shortest
import PortableSearch.Text.Quoted

/-! The literal text of a value, as it appears in term values, in bucket keys and in messages. A
string stands for itself; inside lists and objects it is quoted. -/
namespace PortableSearch.Value

/-- Doubles as in JSON, with other names for the values that are no numbers. -/
def literalFloat : Decimal.Layout := ⟨-4, 16, 2, "nan", "inf"⟩

/-- Texts with a comma and a blank between them. -/
def commaSeparated : List String → String := String.intercalate ", "

/-- A span of seconds, in days and the seconds of a day. -/
def spanLiteral (seconds : Int) : String :=
  let days := seconds / 86400
  let rest := seconds % 86400
  "datetime.timedelta(" ++
    commaSeparated ((if days = 0 then [] else ["days=" ++ toString days]) ++
      (if rest = 0 then [] else ["seconds=" ++ toString rest])) ++ ")"

/-- The clock of a moment, by its offset from UTC. -/
def clockLiteral (offset : Int) : String :=
  if offset = 0 then "datetime.timezone.utc"
  else "datetime.timezone(" ++ spanLiteral offset ++ ")"

/-- A moment by its parts; seconds and microseconds are left out where they and all after them
are zero. -/
def momentLiteral (m : Calendar.Moment) : String :=
  let d := Calendar.dateOfWall m.wall
  let c := Calendar.clockOfWall m.wall
  let small := if c.micro ≠ 0 then [c.second, c.micro] else if c.second ≠ 0 then [c.second] else []
  let parts := [toString d.year, toString d.month, toString d.day, toString c.hour,
    toString c.minute] ++ small.map toString ++
    (m.offset.map fun o => "tzinfo=" ++ clockLiteral o).toList
  "datetime.datetime(" ++ commaSeparated parts ++ ")"

mutual

/-- The literal of a value inside another value. -/
def literal : Value → String
  | null => "None"
  | bool true => "True"
  | bool false => "False"
  | int n => toString n
  | float x => literalFloat.render x
  | str s => Text.Quoted.ofText s
  | bytes b => Text.Quoted.ofBytes b.toList
  | moment m => momentLiteral m
  | list vs => "[" ++ commaSeparated (literals vs) ++ "]"
  | obj ms => "\x7b" ++ commaSeparated (memberLiterals ms) ++ "\x7d"
  | pair name v => "(" ++ commaSeparated [Text.Quoted.ofText name, literal v] ++ ")"
  | choice type option text => "<" ++ type ++ "." ++ option ++ ": " ++ Text.Quoted.ofText text ++ ">"
  | record kinds _ fields others =>
    kinds.headD "" ++ "(" ++ commaSeparated (fieldLiterals fields ++ fieldLiterals others) ++ ")"

def literals : List Value → List String
  | [] => []
  | v :: vs => literal v :: literals vs

def memberLiterals : List (String × Value) → List String
  | [] => []
  | (n, v) :: ms => (Text.Quoted.ofText n ++ ": " ++ literal v) :: memberLiterals ms

def fieldLiterals : List (String × Value) → List String
  | [] => []
  | (n, v) :: ms => (n ++ "=" ++ literal v) :: fieldLiterals ms

end

/-- The text of a value. -/
def display : Value → String
  | str s => s
  | moment m => String.ofList (m.text ' ')
  | choice type option _ => type ++ "." ++ option
  | record _ _ fields others =>
    String.intercalate " " (fieldLiterals fields ++ fieldLiterals others)
  | v => v.literal

end PortableSearch.Value
