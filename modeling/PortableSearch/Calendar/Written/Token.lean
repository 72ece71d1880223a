import PortableSearch.Text.Blank
import PortableSearch.Text.Digit

/-! The tokens of a written date: words, numbers, which may hold one point, and single marks. A
stretch that mixes letters, digits and points is cut at its points and commas. -/
namespace PortableSearch.Calendar.Written

abbrev Token := List Char

/-- Letters, and every character outside ASCII that is neither a digit nor blank. -/
def isWordChar (c : Char) : Bool :=
  c.isAlpha || (0x7F < c.toNat && !Text.isDigit c && !Text.isBlank c)

/-- What an unfinished token is: a word or a number, which may have gone on after a point. -/
inductive Shape where
  | word
  | number
  | dottedWord
  | dottedNumber
deriving DecidableEq, Repr

/-- An unfinished token: its characters in reverse, and whether a word was continued in it. -/
structure Pending where
  shape : Shape
  lettered : Bool
  reversed : List Char

/-- Points and commas become tokens of their own. -/
def splitMarks : List Char → List Token
  | [] => []
  | c :: cs =>
    if c = '.' || c = ',' then [c] :: splitMarks cs
    else match splitMarks cs, cs with
      | t :: ts, next :: _ => if next = '.' || next = ',' then [c] :: t :: ts else (c :: t) :: ts
      | ts, _ => [c] :: ts

/-- The tokens of a finished stretch. A number with one point inside stays whole, and so does
one with a comma for the point. -/
def Pending.tokens (p : Pending) : List Token :=
  let token := p.reversed.reverse
  let ended := match p.reversed with
    | c :: _ => c = '.' || c = ','
    | [] => false
  match p.shape with
  | .word | .number => [token]
  | .dottedWord =>
    if p.lettered || 1 < token.count '.' || ended then splitMarks token else [token]
  | .dottedNumber =>
    if p.lettered || 1 < token.count '.' || ended then splitMarks token
    else if token.contains '.' then [token]
    else [token.map fun c => if c = ',' then '.' else c]

/-- The token continued by one more character, if that character belongs to it. -/
def Pending.extend? (p : Pending) (c : Char) : Option Pending :=
  let afterPoint := p.reversed.head? == some '.'
  match p.shape with
  | .word =>
    if isWordChar c then some ⟨.word, true, c :: p.reversed⟩
    else if c = '.' then some ⟨.dottedWord, true, c :: p.reversed⟩
    else none
  | .number =>
    if Text.isDigit c then some { p with reversed := c :: p.reversed }
    else if c = '.' || (c = ',' && 2 ≤ p.reversed.length) then
      some ⟨.dottedNumber, p.lettered, c :: p.reversed⟩
    else none
  | .dottedWord =>
    if c = '.' || isWordChar c then some ⟨.dottedWord, true, c :: p.reversed⟩
    else if Text.isDigit c && afterPoint then some ⟨.dottedNumber, true, c :: p.reversed⟩
    else none
  | .dottedNumber =>
    if c = '.' || Text.isDigit c then some { p with reversed := c :: p.reversed }
    else if isWordChar c && afterPoint then some ⟨.dottedWord, p.lettered, c :: p.reversed⟩
    else none

/-- The token that a character ended: inside a dotted word every further character, also the
one that ends it, counts as its continuation. -/
def Pending.close (p : Pending) : Pending :=
  match p.shape with
  | .word | .dottedWord => { p with lettered := true }
  | _ => p

/-- A character at the start of a token: it opens a word or a number, or stands alone. -/
def openToken (c : Char) : Pending ⊕ Token :=
  if isWordChar c then .inl ⟨.word, false, [c]⟩
  else if Text.isDigit c then .inl ⟨.number, false, [c]⟩
  else if Text.isBlank c then .inr [' ']
  else .inr [c]

/-- The tokens of a text, continuing an unfinished one. -/
def tokensFrom : Option Pending → List Char → List Token
  | none, [] => []
  | some p, [] => p.tokens
  | none, c :: cs =>
    match openToken c with
    | .inl p => tokensFrom (some p) cs
    | .inr t => t :: tokensFrom none cs
  | some p, c :: cs =>
    match p.extend? c, openToken c with
    | some longer, _ => tokensFrom (some longer) cs
    | none, .inl q => p.close.tokens ++ tokensFrom (some q) cs
    | none, .inr t => p.close.tokens ++ t :: tokensFrom none cs

/-- The tokens of a text; the character NUL is left out. -/
def tokens (cs : List Char) : List Token :=
  tokensFrom none (cs.filter (·.toNat != 0))

end PortableSearch.Calendar.Written
