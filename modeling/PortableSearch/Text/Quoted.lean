import PortableSearch.Text.Printable

/-! Texts and bytes written as quoted literals. The quote is the apostrophe, unless the content
holds an apostrophe and no quotation mark. The quote itself and the backslash are escaped,
line feed, carriage return and tab have short escapes, and every other character that is not
printable is written by its code point. -/
namespace PortableSearch.Text.Quoted

def hexDigit (n : Nat) : Char :=
  if n < 10 then Char.ofNat (0x30 + n) else Char.ofNat (0x57 + n)

/-- The last so many hexadecimal digits of a number, in lower case. -/
def hex : Nat → Nat → List Char
  | 0, _ => []
  | places + 1, n => hex places (n / 16) ++ [hexDigit (n % 16)]

/-- A character by its code point, in the shortest of three widths. -/
def codePoint (n : Nat) : List Char :=
  if n < 0x100 then '\\' :: 'x' :: hex 2 n
  else if n < 0x10000 then '\\' :: 'u' :: hex 4 n
  else '\\' :: 'U' :: hex 8 n

/-- The quote that surrounds a content. -/
def quoteFor (content : List Char) : Char :=
  if content.contains '\'' && !content.contains '"' then '"' else '\''

/-- One character inside the quotes. -/
def escape (quote : Char) (c : Char) : List Char :=
  if c = quote || c = '\\' then ['\\', c]
  else if c = '\n' then ['\\', 'n']
  else if c = '\r' then ['\\', 'r']
  else if c = '\t' then ['\\', 't']
  else if isPrintable c then [c]
  else codePoint c.toNat

/-- A text as a quoted literal. -/
def ofText (s : String) : String :=
  let quote := quoteFor s.toList
  String.ofList (quote :: s.toList.flatMap (escape quote) ++ [quote])

/-- Bytes as a quoted literal marked by a leading letter; bytes beyond the printable part of
ASCII are written as hexadecimal escapes. -/
def ofBytes (bytes : List UInt8) : String :=
  let content := bytes.map fun b => Char.ofNat b.toNat
  let quote := quoteFor content
  let body := content.flatMap fun c => if c.toNat < 0x7F then escape quote c else codePoint c.toNat
  String.ofList ('b' :: quote :: body ++ [quote])

end PortableSearch.Text.Quoted
