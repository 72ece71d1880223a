import Mathlib.Algebra.Group.Nat.Defs
import PortableSearch.Calendar.Iso
import PortableSearch.Calendar.Written.Token
import PortableSearch.Proofs.Text.Digits

/-! The ISO text of a moment, cut into the tokens of a written date. Its numbers have fixed numbers
of digits, and each of its marks ends the token before it, but for the point of the seconds. -/
namespace PortableSearch.Calendar

/-- A run of ASCII digits of the given length, with the number that it writes. -/
structure IsNumeral (width n : Nat) (run : List Char) : Prop where
  length : run.length = width
  ascii : ∀ c ∈ run, c.isDigit = true
  value : Nat.ofDigitChars 10 run 0 = n

theorem ofDigitChars_zeros (count : Nat) :
    Nat.ofDigitChars 10 (List.replicate count '0') 0 = 0 := by
  induction count with
  | zero => rfl
  | succ count ih => exact ih

theorem paddedDigits_isNumeral {width n : Nat} (some : 0 < width) (fits : n < 10 ^ width) :
    IsNumeral width n (paddedDigits width n) where
  length := by
    have short := (Nat.length_toDigits_le_iff (by decide) some).mpr fits
    rw [paddedDigits, List.length_append, List.length_replicate]
    omega
  ascii := by
    intro c inside
    rcases List.mem_append.mp inside with zero | digit
    · rw [List.eq_of_mem_replicate zero]
      rfl
    · exact Nat.isDigit_of_mem_toDigits (by decide) (Nat.le_refl 10) digit
  value := by
    rw [paddedDigits, Nat.ofDigitChars_append, ofDigitChars_zeros,
      Nat.ofDigitChars_toDigits (by decide) (by decide)]

theorem asciiDigit_cases {c : Char} (ascii : c.isDigit = true) :
    ∃ d : Fin 10, c = (d : Nat).digitChar := by
  have bounds : 48 ≤ c.toNat ∧ c.toNat ≤ 57 := by
    simp only [Char.isDigit, Bool.and_eq_true, decide_eq_true_eq] at ascii
    exact ascii
  have each : ∀ d : Fin 10, Char.ofNat (48 + d) = (d : Nat).digitChar := by decide
  refine ⟨⟨c.toNat - 48, by omega⟩, ?_⟩
  rw [← each, Nat.add_sub_cancel' bounds.1, Char.ofNat_toNat]

/-- A digit or one of the marks of the text. -/
def IsIsoChar (c : Char) : Prop := c.isDigit = true ∨ c ∈ ['-', 'T', ':', '.', '+']

theorem IsIsoChar.visible {c : Char} (iso : IsIsoChar c) :
    c.toNat ≠ 0 ∧ Text.isBlank c = false ∧ c ≠ '|' := by
  rcases iso with digit | mark
  · have each : ∀ n : Fin 10, (n : Nat).digitChar.toNat ≠ 0 ∧
        Text.isBlank (n : Nat).digitChar = false ∧ (n : Nat).digitChar ≠ '|' := by decide +kernel
    obtain ⟨n, rfl⟩ := asciiDigit_cases digit
    exact each n
  · simp only [List.mem_cons, List.not_mem_nil, or_false] at mark
    rcases mark with rfl | rfl | rfl | rfl | rfl <;> decide +kernel

namespace IsNumeral
variable {width n : Nat} {run rest : List Char}

theorem ne_nil (numeral : IsNumeral (width + 1) n run) : run ≠ [] := by
  rintro rfl
  exact absurd numeral.length (by simp)

theorem readNat? (numeral : IsNumeral (width + 1) n run) (short : width < Text.longestNumeral) :
    Text.readNat? run = some n := by
  rw [Text.readNat?_ascii numeral.ne_nil (by rw [numeral.length]; exact short) numeral.ascii,
    numeral.value]

theorem readRun? (numeral : IsNumeral (width + 1) n run) : Text.readRun? run = some n := by
  have present : run.isEmpty = false := by simpa using numeral.ne_nil
  rw [Text.readRun?, present]
  exact (Text.readDigitsFrom_ascii numeral.ascii 0).trans (congrArg _ numeral.value)

theorem all_isDigit (numeral : IsNumeral width n run) : run.all Text.isDigit = true :=
  List.all_eq_true.mpr fun c inside => Text.isDigit_ascii (numeral.ascii c inside)

theorem chars (numeral : IsNumeral width n run) :
    ∀ c ∈ run, IsIsoChar c :=
  fun c inside => .inl (numeral.ascii c inside)

end IsNumeral

/-! Tokens -/

namespace Written
variable {run fraction rest : List Char} {c : Char} {p : Pending}

theorem isWordChar_digit (ascii : c.isDigit = true) : isWordChar c = false := by
  have each : ∀ d : Fin 10, isWordChar (d : Nat).digitChar = false := by decide +kernel
  obtain ⟨d, rfl⟩ := asciiDigit_cases ascii
  exact each d

theorem ne_mark (ascii : c.isDigit = true) : c ≠ '.' ∧ c ≠ ',' := by
  constructor
  · rintro rfl
    cases ascii
  · rintro rfl
    cases ascii

theorem openToken_digit (ascii : c.isDigit = true) :
    openToken c = .inl ⟨.number, false, [c]⟩ := by
  simp [openToken, isWordChar_digit ascii, Text.isDigit_ascii ascii]

/-- What follows begins with a character that continues no number. -/
def EndsNumeral (rest : List Char) : Prop :=
  ∀ c ∈ rest.head?, Text.isDigit c = false ∧ c ≠ '.' ∧ c ≠ ','

/-- A character that does not belong to a token ends it. -/
theorem tokensFrom_close (ends : ∀ c ∈ rest.head?, p.extend? c = none)
    (closed : p.close.tokens = p.tokens) :
    tokensFrom (some p) rest = p.tokens ++ tokensFrom none rest := by
  cases rest with
  | nil => simp [tokensFrom]
  | cons c rest =>
    rw [tokensFrom, tokensFrom, ends c rfl, closed]
    cases openToken c <;> rfl

theorem tokensFrom_digits (ascii : ∀ c ∈ run, c.isDigit = true) {shape : Shape}
    (number : shape = .number ∨ shape = .dottedNumber) (reversed : List Char) :
    tokensFrom (some ⟨shape, false, reversed⟩) (run ++ rest) =
      tokensFrom (some ⟨shape, false, run.reverse ++ reversed⟩) rest := by
  induction run generalizing reversed with
  | nil => rfl
  | cons c run ih =>
    rw [List.forall_mem_cons] at ascii
    have longer : Pending.extend? ⟨shape, false, reversed⟩ c =
        some ⟨shape, false, c :: reversed⟩ := by
      rcases number with rfl | rfl <;> simp [Pending.extend?, Text.isDigit_ascii ascii.1]
    rw [List.cons_append, tokensFrom, longer, List.reverse_cons, List.append_assoc]
    exact ih ascii.2 _

/-- A text that begins with digits goes on in a number. -/
theorem tokensFrom_number (some : run ≠ []) (ascii : ∀ c ∈ run, c.isDigit = true)
    (rest : List Char) :
    tokensFrom none (run ++ rest) = tokensFrom (.some ⟨.number, false, run.reverse⟩) rest := by
  cases run with
  | nil => exact absurd rfl some
  | cons c run =>
    rw [List.forall_mem_cons] at ascii
    rw [List.cons_append, tokensFrom, openToken_digit ascii.1, List.reverse_cons]
    exact tokensFrom_digits ascii.2 (.inl rfl) [c]

/-- A run of digits is a token. -/
theorem tokensFrom_run (some : run ≠ []) (ascii : ∀ c ∈ run, c.isDigit = true)
    (ends : EndsNumeral rest) : tokensFrom none (run ++ rest) = run :: tokensFrom none rest := by
  rw [tokensFrom_number some ascii, tokensFrom_close _ rfl]
  · simp [Pending.tokens]
  · intro c first
    obtain ⟨noDigit, noPoint, noComma⟩ := ends c first
    simp [Pending.extend?, noDigit, noPoint, noComma]

theorem dottedNumber_tokens {reversed : List Char} (noPoint : c ≠ '.') (noComma : c ≠ ',')
    (single : (c :: reversed).reverse.count '.' = 1) :
    Pending.tokens ⟨.dottedNumber, false, c :: reversed⟩ = [(c :: reversed).reverse] := by
  have point : '.' ∈ (c :: reversed).reverse := List.count_pos_iff.mp (by omega)
  have points : ¬ 1 < (c :: reversed).reverse.count '.' := by omega
  simp only [Pending.tokens, points, noPoint, noComma, decide_false, Bool.or_false,
    Bool.false_eq_true, if_false, List.contains_iff_mem, point, if_true]

/-- So is one with a point and more digits behind it. -/
theorem tokensFrom_fraction (some : run ≠ []) (ascii : ∀ c ∈ run, c.isDigit = true)
    (some' : fraction ≠ []) (ascii' : ∀ c ∈ fraction, c.isDigit = true)
    (ends : EndsNumeral rest) : tokensFrom none (run ++ '.' :: fraction ++ rest) =
      (run ++ '.' :: fraction) :: tokensFrom none rest := by
  have point : Pending.extend? ⟨.number, false, run.reverse⟩ '.' =
      .some ⟨.dottedNumber, false, '.' :: run.reverse⟩ := by
    simp [Pending.extend?, show Text.isDigit '.' = false by decide +kernel]
  obtain ⟨last, front, shape⟩ : ∃ last front, fraction.reverse = last :: front :=
    List.exists_cons_of_ne_nil (by simpa using some')
  have digit : last.isDigit = true := ascii' last (by rw [← List.mem_reverse, shape]; simp)
  obtain ⟨noPoint, noComma⟩ := ne_mark digit
  rw [List.append_assoc, tokensFrom_number some ascii, List.cons_append, tokensFrom, point]
  show tokensFrom (.some ⟨.dottedNumber, false, '.' :: run.reverse⟩) (fraction ++ rest) = _
  rw [tokensFrom_digits ascii' (.inr rfl), tokensFrom_close _ rfl]
  · have whole : (last :: (front ++ '.' :: run.reverse)).reverse = run ++ '.' :: fraction := by
      rw [← List.cons_append, ← shape]
      simp
    have none (digits : List Char) (ascii : ∀ c ∈ digits, c.isDigit = true) :
        digits.count '.' = 0 :=
      List.count_eq_zero.mpr fun inside => (ne_mark (ascii _ inside)).1 rfl
    have single : (run ++ '.' :: fraction).count '.' = 1 := by
      rw [List.count_append, List.count_cons_self, none run ascii, none fraction ascii']
    rw [shape, List.cons_append, dottedNumber_tokens noPoint noComma (by rw [whole, single]), whole]
    rfl
  · intro c first
    obtain ⟨noDigit, noPoint', noComma'⟩ := ends c first
    simp [Pending.extend?, noDigit, noPoint', shape, noPoint]

/-- A character that stands alone, and one that begins a word before a digit. -/
theorem tokensFrom_mark (mark : c ∈ ['-', ':', '+']) (rest : List Char) :
    tokensFrom none (c :: rest) = [c] :: tokensFrom none rest := by
  have opened : openToken c = .inr [c] := by
    simp only [List.mem_cons, List.not_mem_nil, or_false] at mark
    rcases mark with rfl | rfl | rfl <;> rfl
  rw [tokensFrom, opened]

theorem tokensFrom_letter (some : run ≠ []) (ascii : ∀ c ∈ run, c.isDigit = true) :
    tokensFrom none ('T' :: (run ++ rest)) = ['T'] :: tokensFrom none (run ++ rest) := by
  have opened : openToken 'T' = .inl ⟨.word, false, ['T']⟩ := rfl
  rw [tokensFrom, opened]
  refine tokensFrom_close ?_ rfl
  intro c first
  cases run with
  | nil => exact absurd rfl some
  | cons d run =>
    obtain rfl : d = c := Option.some.inj first
    have digit := ascii d List.mem_cons_self
    simp [Pending.extend?, isWordChar_digit digit, (ne_mark digit).1]

theorem endsNumeral_mark (mark : c ∈ ['-', ':', '+', 'T']) (rest : List Char) :
    EndsNumeral (c :: rest) := by
  intro d first
  obtain rfl : c = d := Option.some.inj first
  simp only [List.mem_cons, List.not_mem_nil, or_false] at mark
  rcases mark with rfl | rfl | rfl | rfl <;> decide +kernel

/-- Seconds of two digits, with six digits of a fraction or none. -/
inductive IsSeconds : Nat → Nat → Token → Prop where
  | whole {second run} : IsNumeral 2 second run → IsSeconds second 0 run
  | fraction {second micro run fraction} : IsNumeral 2 second run → IsNumeral 6 micro fraction →
      IsSeconds second micro (run ++ '.' :: fraction)

theorem IsSeconds.tokensFrom {second micro : Nat} (seconds : IsSeconds second micro run)
    (ends : EndsNumeral rest) : tokensFrom none (run ++ rest) = run :: tokensFrom none rest := by
  cases seconds with
  | whole numeral => exact tokensFrom_run numeral.ne_nil numeral.ascii ends
  | fraction numeral numeral' =>
    exact tokensFrom_fraction numeral.ne_nil numeral.ascii numeral'.ne_nil numeral'.ascii ends

theorem IsSeconds.chars {second micro : Nat} (seconds : IsSeconds second micro run) :
    ∀ c ∈ run, IsIsoChar c := by
  cases seconds with
  | whole numeral => exact numeral.chars
  | fraction numeral numeral' =>
    exact List.forall_mem_append.mpr
      ⟨numeral.chars, List.forall_mem_cons.mpr ⟨.inr (by decide), numeral'.chars⟩⟩

/-- The parts of a written date and time with an offset from UTC. -/
structure IsoParts where
  year : Token
  month : Token
  day : Token
  hour : Token
  minute : Token
  second : Token
  sign : Char
  hours : Token
  minutes : Token

namespace IsoParts

/-- `YYYY-MM-DDTHH:MM:SS.ffffff+HH:MM` -/
def text (p : IsoParts) : List Char :=
  p.year ++ '-' :: (p.month ++ '-' :: (p.day ++ 'T' :: (p.hour ++ ':' :: (p.minute ++ ':' ::
    (p.second ++ p.sign :: (p.hours ++ ':' :: p.minutes))))))

def tokens (p : IsoParts) : List Token :=
  [p.year, ['-'], p.month, ['-'], p.day, ['T'], p.hour, [':'], p.minute, [':'], p.second, [p.sign],
    p.hours, [':'], p.minutes]

/-- The parts write a date, a time of day and an offset in whole minutes. -/
structure Means (p : IsoParts) (d : Date) (c : Clock) (offset : Int) : Prop where
  year : IsNumeral 4 d.year.toNat p.year
  month : IsNumeral 2 d.month p.month
  day : IsNumeral 2 d.day p.day
  hour : IsNumeral 2 c.hour p.hour
  minute : IsNumeral 2 c.minute p.minute
  second : IsSeconds c.second c.micro p.second
  sign : p.sign = if offset < 0 then '-' else '+'
  hours : IsNumeral 2 (offset.natAbs / 3600) p.hours
  minutes : IsNumeral 2 (offset.natAbs / 60 % 60) p.minutes
  whole : offset % 60 = 0

variable {p : IsoParts} {d : Date} {c : Clock} {offset : Int}

theorem Means.mark (means : p.Means d c offset) : p.sign ∈ ['-', ':', '+'] := by
  rw [means.sign]
  split <;> decide

theorem Means.chars (means : p.Means d c offset) : ∀ c ∈ p.text, IsIsoChar c := by
  have sign : IsIsoChar p.sign := by
    rw [means.sign]
    split <;> exact .inr (by decide)
  simp only [text, List.forall_mem_append, List.forall_mem_cons]
  exact ⟨means.year.chars, .inr (by decide), means.month.chars, .inr (by decide),
    means.day.chars, .inr (by decide), means.hour.chars, .inr (by decide), means.minute.chars,
    .inr (by decide), means.second.chars, sign, means.hours.chars, .inr (by decide),
    means.minutes.chars⟩

theorem Means.begins (means : p.Means d c offset) :
    ∃ first rest, p.text = first :: rest ∧ first.isDigit = true := by
  obtain ⟨first, rest, year⟩ := List.exists_cons_of_ne_nil means.year.ne_nil
  exact ⟨first, _, by rw [text, year, List.cons_append], means.year.ascii first (by simp [year])⟩

theorem Means.tokensFrom_text (means : p.Means d c offset) :
    tokensFrom none p.text = p.tokens := by
  have dash := endsNumeral_mark (show '-' ∈ ['-', ':', '+', 'T'] by decide)
  have colon := endsNumeral_mark (show ':' ∈ ['-', ':', '+', 'T'] by decide)
  have letter := endsNumeral_mark (show 'T' ∈ ['-', ':', '+', 'T'] by decide)
  have sign := endsNumeral_mark (show p.sign ∈ ['-', ':', '+', 'T'] by
    rw [means.sign]
    split <;> decide)
  have number {width n : Nat} {run rest : List Char} (numeral : IsNumeral (width + 1) n run)
      (ends : EndsNumeral rest) : tokensFrom none (run ++ rest) = run :: tokensFrom none rest :=
    tokensFrom_run numeral.ne_nil numeral.ascii ends
  have last : tokensFrom none p.minutes = [p.minutes] := by
    have nothing : EndsNumeral [] := nofun
    simpa [tokensFrom] using number means.minutes nothing
  rw [text, number means.year (dash _), tokensFrom_mark (by decide), number means.month (dash _),
    tokensFrom_mark (by decide), number means.day (letter _),
    tokensFrom_letter means.hour.ne_nil means.hour.ascii, number means.hour (colon _),
    tokensFrom_mark (by decide), number means.minute (colon _), tokensFrom_mark (by decide),
    means.second.tokensFrom (sign _), tokensFrom_mark means.mark, number means.hours (colon _),
    tokensFrom_mark (by decide), last]
  rfl

/-- The tokens of the text are its parts and the marks between them. -/
theorem Means.tokens_text (means : p.Means d c offset) : Written.tokens p.text = p.tokens := by
  have visible : p.text.filter (·.toNat != 0) = p.text := by
    apply List.filter_eq_self.mpr
    intro c inside
    simpa using (means.chars c inside).visible.1
  rw [Written.tokens, visible, means.tokensFrom_text]

end IsoParts

end Written

end PortableSearch.Calendar
