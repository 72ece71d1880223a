import PortableSearch.Value
import PortableSearch.Calendar.Iso
import PortableSearch.Decimal.Shortest
import PortableSearch.Text.Quoted

/-! The JSON text of a value: without blanks, members in order, each character as itself unless
JSON requires an escape, and doubles always with a point or an exponent. What JSON lacks is
written by the nearest it has: a moment as its ISO text, bytes as their quoted literal, an option
as its text, a field in a list as the list of its name and value, and a record as the object of
its fields. -/
namespace PortableSearch.Value

/-- Doubles are positional from `1e-4` to below `1e16`, exponents have two digits at least, and
the values that are no numbers have names. -/
def jsonFloat : Decimal.Layout := ⟨-4, 16, 2, "NaN", "Infinity"⟩

/-- One character of a string. -/
def jsonEscape (c : Char) : List Char :=
  if c = '"' then ['\\', '"']
  else if c = '\\' then ['\\', '\\']
  else if c = '\n' then ['\\', 'n']
  else if c = '\r' then ['\\', 'r']
  else if c = '\t' then ['\\', 't']
  else if c.toNat = 0x08 then ['\\', 'b']
  else if c.toNat = 0x0C then ['\\', 'f']
  else if c.toNat < 0x20 then '\\' :: 'u' :: Text.Quoted.hex 4 c.toNat
  else [c]

/-- A string between quotation marks. -/
def jsonString (s : String) : List Char :=
  '"' :: s.toList.flatMap jsonEscape ++ ['"']

mutual

def jsonChars : Value → List Char
  | null => ['n', 'u', 'l', 'l']
  | bool true => ['t', 'r', 'u', 'e']
  | bool false => ['f', 'a', 'l', 's', 'e']
  | int n => (toString n).toList
  | float x => (jsonFloat.render x).toList
  | str s => jsonString s
  | bytes b => jsonString (Text.Quoted.ofBytes b.toList)
  | moment m => jsonString m.iso
  | list vs => '[' :: jsonItems vs ++ [']']
  | obj ms => '{' :: jsonMembers ms ++ ['}']
  | pair name v => '[' :: jsonString name ++ ',' :: jsonChars v ++ [']']
  | choice _ _ text => jsonString text
  | record _ _ fields _ => '{' :: jsonMembers fields ++ ['}']

/-- Items with commas between them. -/
def jsonItems : List Value → List Char
  | [] => []
  | [v] => jsonChars v
  | v :: vs => jsonChars v ++ ',' :: jsonItems vs

/-- Members with commas between them. -/
def jsonMembers : List (String × Value) → List Char
  | [] => []
  | [(n, v)] => jsonString n ++ ':' :: jsonChars v
  | (n, v) :: ms => jsonString n ++ ':' :: jsonChars v ++ ',' :: jsonMembers ms

end

/-- The JSON text. -/
def json (v : Value) : String := String.ofList v.jsonChars

end PortableSearch.Value
