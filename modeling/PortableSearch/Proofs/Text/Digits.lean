import PortableSearch.Text.Digit

/-! Runs of digits that write a number. They are those of decimal digits only that are not too
long; a figure without a place value anywhere in a run makes it unreadable. -/
namespace PortableSearch.Text

/-- A run of digits that writes a number, or no digit at all. -/
def WritesNumber (run : List Char) : Prop :=
  run.length ≤ longestNumeral ∧ ∀ c ∈ run, isDecimalDigit c = true

instance (run : List Char) : Decidable (WritesNumber run) := inferInstanceAs (Decidable (_ ∧ _))

theorem readDigitsFrom_isSome (acc : Nat) (run : List Char) :
    (readDigitsFrom acc run).isSome = true ↔ ∀ c ∈ run, isDecimalDigit c = true := by
  induction run generalizing acc with
  | nil => simp [readDigitsFrom]
  | cons c run ih =>
    rw [readDigitsFrom, List.forall_mem_cons, isDecimalDigit]
    cases decimalDigit? c with
    | none => simp
    | some d => simpa using ih _

theorem readNat?_eq_none {run : List Char} (some : run ≠ []) :
    readNat? run = none ↔ ¬ WritesNumber run := by
  have decimal := readDigitsFrom_isSome 0 run
  have present : run.isEmpty = false := by simpa using some
  rw [readNat?, WritesNumber]
  split
  · rename_i long
    exact ⟨fun _ ⟨short, _⟩ => by omega, fun _ => rfl⟩
  · rename_i short
    rw [readRun?, present, ← decimal]
    cases readDigitsFrom 0 run <;> simp
    omega

/-! Digits of ASCII -/

theorem decimalDigit?_ascii {c : Char} (ascii : c.isDigit = true) :
    decimalDigit? c = some (c.toNat - '0'.toNat) := by
  have bounds : 48 ≤ c.toNat ∧ c.toNat ≤ 57 := by
    simp only [Char.isDigit, Bool.and_eq_true, decide_eq_true_eq] at ascii
    exact ascii
  have found : (decide (0x30 ≤ c.toNat) && decide (c.toNat ≤ 0x30 + 9)) = true := by
    simpa using bounds
  have zero : decimalZeros = 0x30 :: decimalZeros.tail := rfl
  rw [decimalDigit?, zero, List.find?_cons_of_pos (by exact found)]
  rfl

/-- A run of ASCII digits writes its number in the decimal system. -/
theorem readDigitsFrom_ascii {run : List Char} (ascii : ∀ c ∈ run, c.isDigit = true) (acc : Nat) :
    readDigitsFrom acc run = some (Nat.ofDigitChars 10 run acc) := by
  induction run generalizing acc with
  | nil => rfl
  | cons c run ih =>
    rw [List.forall_mem_cons] at ascii
    rw [readDigitsFrom, decimalDigit?_ascii ascii.1]
    exact ih ascii.2 _

theorem readNat?_ascii {run : List Char} (present : run ≠ []) (short : run.length ≤ longestNumeral)
    (ascii : ∀ c ∈ run, c.isDigit = true) : readNat? run = some (Nat.ofDigitChars 10 run 0) := by
  have some : run.isEmpty = false := by simpa using present
  rw [readNat?, if_neg (by omega), readRun?, some]
  exact readDigitsFrom_ascii ascii 0

theorem isDigit_ascii {c : Char} (ascii : c.isDigit = true) : isDigit c = true := by
  simp [isDigit, isDecimalDigit, decimalDigit?_ascii ascii]

end PortableSearch.Text
