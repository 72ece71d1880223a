import PortableSearch.Proofs.Text.Digits
import PortableSearch.Proofs.Value.JsonText
import PortableSearch.Value.Parser
import Mathlib.Data.List.TakeDrop

/-! Strings and integers in JSON texts. The reader gets from each what it writes, and stops where it
ends. -/
namespace PortableSearch.Value.Parser
open JsonText
variable {dialect : Dialect} {c : Char} {cs t more rest : List Char}

/-! Strings -/

theorem hexValue?_digit {n : Nat} (digit : HexDigit n c) : hexValue? c = some n := by
  have lower : ∀ m : Fin 16, hexValue? (m : Nat).digitChar = some (m : Nat) := by decide
  have upper : ∀ m : Fin 16, hexValue? (m : Nat).digitChar.toUpper = some (m : Nat) := by decide
  cases digit with
  | lower small => exact lower ⟨n, small⟩
  | upper small => exact upper ⟨n, small⟩

theorem hexUnit?_unit {n : Nat} (unit : HexUnit n t) :
    ∃ a b c d, t = [a, b, c, d] ∧ hexUnit? a b c d = some n := by
  cases unit with
  | digits first second third fourth =>
    refine ⟨_, _, _, _, rfl, ?_⟩
    simp only [hexUnit?, hexValue?_digit first, hexValue?_digit second, hexValue?_digit third,
      hexValue?_digit fourth]
    rfl

/-- Reads a character before what follows. -/
def follows (c : Char) (read : Option (List Char × List Char)) : Option (List Char × List Char) :=
  read.map fun r => (c :: r.1, r.2)

theorem stringFrom_itself (printable : 0x20 ≤ c.toNat) (quote : c ≠ '"') (backslash : c ≠ '\\') :
    stringFrom dialect 0 (c :: more) = follows c (stringFrom dialect 0 more) := by
  rw [stringFrom]
  · have allowed : ¬ (c.toNat < 0x20 || c = '\\') = true := by
      simp [backslash]
      omega
    rw [if_neg allowed]
    rfl
  · exact quote
  · intro _ _ _ _ _ same
    exact absurd same backslash
  · intro _ _ same
    exact absurd same backslash

theorem stringFrom_short {letter : Char} (escape : (letter, c) ∈ shortEscapes) :
    stringFrom dialect 0 ('\\' :: letter :: more) = follows c (stringFrom dialect 0 more) := by
  simp only [shortEscapes, List.mem_cons, Prod.mk.injEq, List.not_mem_nil, or_false] at escape
  rcases escape with h | h | h | h | h | h | h | h <;> obtain ⟨rfl, rfl⟩ := h <;> rfl

/-- No half of a surrogate pair is a character. -/
theorem not_surrogate (c : Char) :
    isHighSurrogate c.toNat = false ∧ isLowSurrogate c.toNat = false := by
  have valid : c.toNat < 0xD800 ∨ 0xDFFF < c.toNat ∧ c.toNat < 0x110000 := c.valid
  simp only [isHighSurrogate, isLowSurrogate, Bool.and_eq_false_iff, decide_eq_false_iff_not]
  omega

theorem stringFrom_unit (unit : HexUnit c.toNat t) :
    stringFrom dialect 0 ('\\' :: 'u' :: t ++ more) = follows c (stringFrom dialect 0 more) := by
  obtain ⟨a, b, c', d, rfl, read⟩ := hexUnit?_unit unit
  obtain ⟨high, low⟩ := not_surrogate c
  show stringFrom dialect 0 ('\\' :: 'u' :: a :: b :: c' :: d :: more) = _
  rw [stringFrom]
  simp [read, high, low, follows]

theorem pairChar_halves (far : 0x10000 ≤ c.toNat) : pairChar (highHalf c) (lowHalf c) = c := by
  have code : 0x10000 + (highHalf c - 0xD800) * 0x400 + (lowHalf c - 0xDC00) = c.toNat := by
    simp only [highHalf, lowHalf]
    omega
  rw [pairChar, code, Char.ofNat_toNat]

theorem halves_surrogate (c : Char) :
    isHighSurrogate (highHalf c) = true ∧ isLowSurrogate (lowHalf c) = true := by
  have valid : c.toNat < 0xD800 ∨ 0xDFFF < c.toNat ∧ c.toNat < 0x110000 := c.valid
  have high : 0xD800 ≤ highHalf c ∧ highHalf c < 0xDC00 := by
    unfold highHalf
    omega
  have low : 0xDC00 ≤ lowHalf c ∧ lowHalf c < 0xE000 := by
    unfold lowHalf
    omega
  simp [isHighSurrogate, isLowSurrogate, high, low]

theorem stringFrom_halves {high low : Nat} {t t' : List Char} (first : HexUnit high t)
    (second : HexUnit low t') (isHigh : isHighSurrogate high = true)
    (isLow : isLowSurrogate low = true) :
    stringFrom dialect 0 ('\\' :: 'u' :: t ++ '\\' :: 'u' :: t' ++ more) =
      follows (pairChar high low) (stringFrom dialect 0 more) := by
  obtain ⟨a, b, d, e, rfl, readHigh⟩ := hexUnit?_unit first
  obtain ⟨a', b', d', e', rfl, readLow⟩ := hexUnit?_unit second
  -- The second half is read with the first, and a count tells to pass over its escape.
  have passed : stringFrom dialect 1 ('\\' :: 'u' :: a' :: b' :: d' :: e' :: more) =
      stringFrom dialect 0 more := by
    rw [stringFrom]
    rfl
  show stringFrom dialect 0
    ('\\' :: 'u' :: a :: b :: d :: e :: '\\' :: 'u' :: a' :: b' :: d' :: e' :: more) = _
  rw [stringFrom]
  simp [readHigh, leadingUnit?, readLow, isHigh, isLow, passed, follows]

theorem stringFrom_char (writes : WritesChar c t) :
    stringFrom dialect 0 (t ++ more) = follows c (stringFrom dialect 0 more) := by
  cases writes with
  | itself printable quote backslash => exact stringFrom_itself printable quote backslash
  | short escape => exact stringFrom_short escape
  | unit digits => exact stringFrom_unit digits
  | pair far first second =>
    obtain ⟨isHigh, isLow⟩ := halves_surrogate c
    rw [stringFrom_halves first second isHigh isLow, pairChar_halves far]

theorem stringFrom_chars (writes : WritesChars cs t) :
    stringFrom dialect 0 (t ++ '"' :: rest) = some (cs, rest) := by
  induction writes with
  | nil => rfl
  | cons first _ ih =>
    rw [List.append_assoc, stringFrom_char first, ih]
    rfl

theorem string_writes {s : String} (writes : WritesString s t) :
    ∃ inside, t = '"' :: inside ∧
      ∀ (dialect : Dialect) rest, string dialect (inside ++ rest) = some (s, rest) := by
  cases writes with
  | @quoted inside written =>
    refine ⟨inside ++ ['"'], rfl, fun dialect rest => ?_⟩
    rw [string, List.append_assoc, List.singleton_append, stringFrom_chars written]
    simp [String.ofList_toList]

/-! Integers -/

/-- A character that does not continue a number. -/
def StopsNumber (c : Char) : Prop := isDigit c = false ∧ c ≠ '.' ∧ c ≠ 'e' ∧ c ≠ 'E'

instance (c : Char) : Decidable (StopsNumber c) := inferInstanceAs (Decidable (_ ∧ _))

/-- What follows an integer in a text does not continue it. -/
def EndsNumber (rest : List Char) : Prop := ∀ c ∈ rest.head?, StopsNumber c

theorem endsNumber_cons (stops : StopsNumber c) : EndsNumber (c :: rest) := by
  rintro _ ⟨rfl⟩
  exact stops

theorem endsNumber_blank (blank : IsBlank t) (ends : EndsNumber rest) :
    EndsNumber (t ++ rest) := by
  have stops : ∀ c ∈ blanks, StopsNumber c :=
    forall_blanks (by decide) (by decide) (by decide) (by decide)
  cases t with
  | nil => exact ends
  | cons c t => exact endsNumber_cons (stops c (blank c List.mem_cons_self))

theorem isDigit_toDigits {n : Nat} : ∀ c ∈ Nat.toDigits 10 n, isDigit c = true := by
  intro c inside
  have digit := Nat.isDigit_of_mem_toDigits (by decide) (Nat.le_refl 10) inside
  simpa [isDigit, Char.isDigit, Char.le_def] using digit

/-- Zero is the first digit of no other number. -/
theorem toDigits_head {n : Nat} (positive : 0 < n) :
    ∃ c cs, Nat.toDigits 10 n = c :: cs ∧ c ≠ '0' := by
  induction n using Nat.strongRecOn with
  | ind n ih =>
    by_cases small : n < 10
    · have each : ∀ m : Fin 10, (m : Nat) ≠ 0 → (m : Nat).digitChar ≠ '0' := by decide
      exact ⟨_, _, Nat.toDigits_of_lt_base small, each ⟨n, small⟩ (by dsimp only; omega)⟩
    · obtain ⟨c, cs, front, other⟩ := ih (n / 10) (by omega) (by omega)
      rw [Nat.toDigits_of_base_le (by decide) (by omega), front]
      exact ⟨c, cs ++ [(n % 10).digitChar], rfl, other⟩

theorem readDigitsFrom_toDigits (n : Nat) :
    Text.readDigitsFrom 0 (Nat.toDigits 10 n) = some n := by
  have ascii : ∀ c ∈ Nat.toDigits 10 n, c.isDigit = true := fun c inside =>
    Nat.isDigit_of_mem_toDigits (by decide) (Nat.le_refl 10) inside
  rw [Text.readDigitsFrom_ascii ascii, Nat.ofDigitChars_toDigits (by decide) (by decide)]

theorem digits_toDigits (n : Nat) (ends : EndsNumber rest) :
    digits (Nat.toDigits 10 n ++ rest) = some (Nat.toDigits 10 n, rest) := by
  have stops : rest.takeWhile isDigit = [] ∧ rest.dropWhile isDigit = rest := by
    cases rest with
    | nil => exact ⟨rfl, rfl⟩
    | cons c rest =>
      have other := (ends c rfl).1
      simp [other]
  have whole : (Nat.toDigits 10 n ++ rest).span isDigit = (Nat.toDigits 10 n, rest) := by
    rw [List.span_eq_takeWhile_dropWhile, List.takeWhile_append_of_pos isDigit_toDigits,
      List.dropWhile_append_of_pos isDigit_toDigits, stops.1, stops.2, List.append_nil]
  rw [digits, whole]
  cases same : Nat.toDigits 10 n with
  | nil => exact absurd same Nat.toDigits_ne_nil
  | cons => rfl

theorem wholePart_toDigits (n : Nat) (ends : EndsNumber rest) :
    wholePart (Nat.toDigits 10 n ++ rest) = some (Nat.toDigits 10 n, rest) := by
  by_cases zero : n = 0
  · subst zero
    rfl
  · obtain ⟨c, cs, shape, other⟩ := toDigits_head (Nat.pos_of_ne_zero zero)
    have found := digits_toDigits n ends
    rw [shape] at found ⊢
    rw [List.cons_append, wholePart]
    · exact found
    · intro _ same
      exact absurd (List.cons.inj same).1 other

theorem fractionPart_ends (ends : EndsNumber rest) : fractionPart rest = some (none, rest) := by
  cases rest with
  | nil => rfl
  | cons c rest =>
    rw [fractionPart]
    intro _ same
    exact (ends c rfl).2.1 (List.cons.inj same).1

theorem exponentPart_ends (ends : EndsNumber rest) : exponentPart rest = some (none, rest) := by
  cases rest with
  | nil => rfl
  | cons c rest =>
    obtain ⟨-, -, small, capital⟩ := ends c rfl
    simp [exponentPart, small, capital]

/-- An integer has no more digits than a reader takes, also where its sign counts as one. -/
def Dialect.Takes (dialect : Dialect) (n : Int) : Prop :=
  (Nat.toDigits 10 n.natAbs).length + (if dialect.countsSigns then 1 else 0) ≤ Text.longestNumeral

theorem Dialect.Takes.accepts {n : Int} (takes : dialect.Takes n) (negative : Bool) :
    (!dialect.refuses negative (Nat.toDigits 10 n.natAbs)) = true := by
  rw [Dialect.Takes] at takes
  cases counts : dialect.countsSigns with
  | false => simp [Dialect.refuses, counts]
  | true =>
    have bound : ¬ Text.longestNumeral <
        (Nat.toDigits 10 n.natAbs).length + (if negative then 1 else 0) := by
      simp only [counts, if_true] at takes
      split <;> omega
    simp [Dialect.refuses, bound]

/-- An integer that is not too long is read back after its sign. -/
theorem number_toDigits {n : Int} (takes : dialect.Takes n) (negative : Bool)
    (ends : EndsNumber rest) : number dialect negative (Nat.toDigits 10 n.natAbs ++ rest) =
      some (.int (if negative then -(n.natAbs : Int) else n.natAbs), rest) := by
  have read : Text.readNat? (Nat.toDigits 10 n.natAbs) = some n.natAbs := by
    have present : (Nat.toDigits 10 n.natAbs).isEmpty = false := by simp
    have short : (Nat.toDigits 10 n.natAbs).length ≤ Text.longestNumeral :=
      Nat.le_trans (Nat.le_add_right _ _) takes
    rw [Text.readNat?, if_neg (by omega), Text.readRun?, present]
    exact readDigitsFrom_toDigits n.natAbs
  rw [number, wholePart_toDigits n.natAbs ends]
  dsimp only [Option.bind_eq_bind, Option.bind_some]
  rw [guard, if_pos (takes.accepts negative), fractionPart_ends ends]
  dsimp only [Option.bind_eq_bind, Option.bind_some, pure]
  rw [exponentPart_ends ends]
  simp [read]

end PortableSearch.Value.Parser
