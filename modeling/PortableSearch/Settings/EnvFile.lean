import PortableSearch.Text.Blank

/-! Files of variables. Each line binds a name to a value after `=`; the word `export` may stand in
front. A value is quoted, possibly over several lines, or it ends with the line or before a comment
that follows a blank. A name alone is a binding without value, and a line that is none of this is
passed over. -/
namespace PortableSearch.Settings.EnvFile
open PortableSearch.Text

/-- Every kind of line end as a line feed. -/
def joinLineEnds : List Char → List Char
  | [] => []
  | '\r' :: '\n' :: cs => '\n' :: joinLineEnds cs
  | '\r' :: cs => '\n' :: joinLineEnds cs
  | c :: cs => c :: joinLineEnds cs

/-- A blank within a line. -/
def isInlineBlank (c : Char) : Bool := isBlank c && c != '\n'

def skipInline (cs : List Char) : List Char := cs.dropWhile isInlineBlank

/-- The text after the end of the line. -/
def skipLine (cs : List Char) : List Char := (cs.dropWhile (· != '\n')).drop 1

/-- Without the word `export` and blanks in front. -/
def skipExport (cs : List Char) : List Char :=
  match cs with
  | 'e' :: 'x' :: 'p' :: 'o' :: 'r' :: 't' :: c :: rest =>
    if isInlineBlank c then skipInline rest else cs
  | _ => cs

/-- Reads up to the closing quote. A quote after a backslash is part of the value if another one
closes it. -/
def readQuoted (quote : Char) : List Char → Option (List Char × List Char)
  | [] => none
  | [c] => if c = quote then some ([], []) else none
  | '\\' :: c :: rest =>
    if c = quote then
      match readQuoted quote rest with
      | some (content, after) => some ('\\' :: c :: content, after)
      | none => some (['\\'], rest)
    else (readQuoted quote (c :: rest)).map fun r => ('\\' :: r.1, r.2)
  | c :: rest =>
    if c = quote then some ([], rest) else (readQuoted quote rest).map fun r => (c :: r.1, r.2)

/-- The characters that a backslash makes of others, within single quotes. -/
def singleEscape? : Char → Option Char
  | '\\' => some '\\'
  | '\'' => some '\''
  | _ => none

/-- The same within double quotes. -/
def doubleEscape? : Char → Option Char
  | '\\' => some '\\'
  | '\'' => some '\''
  | '"' => some '"'
  | 'a' => some (Char.ofNat 0x07)
  | 'b' => some (Char.ofNat 0x08)
  | 'f' => some (Char.ofNat 0x0C)
  | 'n' => some '\n'
  | 'r' => some '\r'
  | 't' => some '\t'
  | 'v' => some (Char.ofNat 0x0B)
  | _ => none

/-- Replaces escapes by the characters they stand for. -/
def unescape (escape? : Char → Option Char) : List Char → List Char
  | '\\' :: c :: rest =>
    match escape? c with
    | some d => d :: unescape escape? rest
    | none => '\\' :: unescape escape? (c :: rest)
  | c :: rest => c :: unescape escape? rest
  | [] => []

/-- The text before a comment, which begins with a number sign after a blank. -/
def beforeComment : List Char → List Char
  | [] => []
  | c :: '#' :: rest => if isBlank c then [] else c :: beforeComment ('#' :: rest)
  | c :: rest => c :: beforeComment rest

/-- Without blanks at the end. -/
def trimEnd (cs : List Char) : List Char := (cs.reverse.dropWhile isBlank).reverse

/-- Reads a value; gives it with the rest of the text. -/
def readValue (cs : List Char) : Option (List Char × List Char) :=
  match cs with
  | '\'' :: rest => (readQuoted '\'' rest).map fun r => (unescape singleEscape? r.1, r.2)
  | '"' :: rest => (readQuoted '"' rest).map fun r => (unescape doubleEscape? r.1, r.2)
  | cs =>
    let line := cs.takeWhile (· != '\n')
    some (trimEnd (beforeComment line), cs.drop line.length)

/-- A character of a name without quotes. -/
def isNameChar (c : Char) : Bool := c != '=' && c != '#' && !isBlank c

/-- Reads a name; a comment has none. -/
def readName (cs : List Char) : Option (Option (List Char) × List Char) :=
  match cs with
  | '#' :: _ => some (none, cs)
  | '\'' :: rest =>
    match rest.span (· != '\'') with
    | (name, _ :: after) => if name.isEmpty then none else some (some name, after)
    | (_, []) => none
  | cs =>
    match cs.span isNameChar with
    | ([], _) => none
    | (name, after) => some (some name, after)

/-- Reads the value after a name, if there is one. -/
def readAssigned (cs : List Char) : Option (Option (List Char) × List Char) :=
  match cs with
  | '=' :: rest => (readValue (skipInline rest)).map fun r => (some r.1, r.2)
  | cs => some (none, cs)

/-- Reads a comment and the end of the line. -/
def readLineEnd (cs : List Char) : Option (List Char) :=
  let rest := match skipInline cs with
    | '#' :: comment => comment.dropWhile (· != '\n')
    | rest => rest
  match skipInline rest with
  | [] => some []
  | '\n' :: rest => some rest
  | _ => none

/-- Reads a line: its name, its value, and the text after it. -/
def readLine? (cs : List Char) :
    Option ((Option (List Char) × Option (List Char)) × List Char) := do
  let (name, rest) ← readName (skipExport cs)
  let (value, rest) ← readAssigned (skipInline rest)
  let rest ← readLineEnd rest
  return ((name, value), rest)

/-- Where reading goes on after a text that is no binding: behind the line at which it failed. -/
def afterFailure (cs : List Char) : List Char :=
  match readName (skipExport cs) with
  | none => skipLine (skipExport cs)
  | some (_, rest) =>
    match readAssigned (skipInline rest) with
    | none => skipLine (skipInline rest)
    | some (_, rest) => skipLine rest

/-- Reads one binding, if the text begins with one, and gives the text to go on with. -/
def readBinding (cs : List Char) : Option (String × Option String) × List Char :=
  match readLine? cs with
  | some ((name, value), rest) =>
    (name.map fun n => (String.ofList n, value.map String.ofList), rest)
  | none => (none, afterFailure cs)

/-- Reads bindings to the end of the text; reading stops where it takes nothing. -/
def readBindings (cs : List Char) : List (String × Option String) :=
  let text := cs.dropWhile isBlank
  let (binding, rest) := readBinding text
  if text.isEmpty then []
  else if _ : rest.length < cs.length then binding.toList ++ readBindings rest
  else []
termination_by cs.length

/-- The bindings of a file, in order. -/
def bindings (text : String) : List (String × Option String) :=
  readBindings (joinLineEnds text.toList)

/-- The value of a name: that of its last binding. -/
def valueOf? (bindings : List (String × Option String)) (name : String) : Option String :=
  (bindings.reverse.lookup name).join

end PortableSearch.Settings.EnvFile
