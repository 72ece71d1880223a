import PortableSearch.Proofs.DateMath.Declared
import PortableSearch.Proofs.DateMath.ZoneShift

/-! The grammar of date math. A text spells operations, each a sign, digits and a unit or a slash
and a unit. How an operation is read does not depend on what follows it, so the operations of a text
compose. On a clock that is never a day or more off, exactly the texts of the grammar have a value,
unless the evaluation leaves the years of the calendar; all other texts are refused as malformed. -/
namespace PortableSearch.Calendar

/-- The letters that name a unit. -/
def TimeUnit.letters : TimeUnit → List Char
  | .year => ['y']
  | .month => ['M']
  | .week => ['w']
  | .day => ['d']
  | .hour => ['h', 'H']
  | .minute => ['m']
  | .second => ['s']

theorem TimeUnit.ofChar?_eq_some {letter : Char} {unit : TimeUnit} :
    ofChar? letter = some unit ↔ letter ∈ unit.letters := by
  constructor
  · intro named
    unfold ofChar? at named
    split at named <;> cases named <;> simp [letters]
  · intro named
    cases unit <;> simp only [letters, List.mem_cons, List.not_mem_nil, or_false] at named
    case hour => rcases named with rfl | rfl <;> rfl
    all_goals exact named ▸ rfl

theorem TimeUnit.isDigit_letter {letter : Char} {unit : TimeUnit} (named : letter ∈ unit.letters) :
    Text.isDigit letter = false := by
  cases unit <;> simp only [letters, List.mem_cons, List.not_mem_nil, or_false] at named
  case hour => rcases named with rfl | rfl <;> decide +kernel
  all_goals
    subst named
    decide +kernel

theorem TimeUnit.isBlank_letter {letter : Char} {unit : TimeUnit} (named : letter ∈ unit.letters) :
    Text.isBlank letter = false := by
  cases unit <;> simp only [letters, List.mem_cons, List.not_mem_nil, or_false] at named
  case hour => rcases named with rfl | rfl <;> decide +kernel
  all_goals
    subst named
    decide +kernel

namespace DateMath

/-- How many units a run of digits asks for; no digits ask for one. -/
def amount? (digits : List Char) : Option Nat :=
  if digits.isEmpty then some 1 else Text.readNat? digits

/-- What an operator, the digits after it and a unit mean together. -/
inductive Means : Char → List Char → TimeUnit → Operation → Prop where
  | ahead {digits n unit} : amount? digits = some n → Means '+' digits unit (.shift n unit)
  | back {digits n unit} : amount? digits = some n → Means '-' digits unit (.shift (-n) unit)
  | round {unit} : Means '/' [] unit (.round unit)

/-- The digits that are read are all that stand before a character that is none. -/
theorem readAmount_digits {digits rest : List Char} {letter : Char}
    (run : ∀ c ∈ digits, Text.isDigit c = true) (ends : Text.isDigit letter = false) :
    readAmount (digits ++ letter :: rest) =
      if digits.isEmpty then .ok (none, letter :: rest)
      else (Text.readNat? digits).elim (.error .unreadableNumber)
        fun n => .ok (some n, letter :: rest) := by
  have first : (digits ++ letter :: rest).takeWhile Text.isDigit = digits := by
    rw [List.takeWhile_append_of_pos run, List.takeWhile_cons_of_neg (by simp [ends]),
      List.append_nil]
  have last : (digits ++ letter :: rest).dropWhile Text.isDigit = letter :: rest := by
    rw [List.dropWhile_append_of_pos run, List.dropWhile_cons_of_neg (by simp [ends])]
  rw [readAmount, first, last]
  cases digits with
  | nil => rfl
  | cons c digits => cases Text.readNat? (c :: digits) <;> rfl

theorem readAmount_ok {cs rest : List Char} {amount : Option Nat}
    (read : readAmount cs = .ok (amount, rest)) :
    ∃ digits, cs = digits ++ rest ∧ (∀ c ∈ digits, Text.isDigit c = true) ∧
      amount? digits = some (amount.getD 1) ∧ (amount = none → digits = []) := by
  have run : ∀ c ∈ cs.takeWhile Text.isDigit, Text.isDigit c = true :=
    List.all_eq_true.mp List.all_takeWhile
  have whole := List.takeWhile_append_dropWhile (p := Text.isDigit) (l := cs)
  rw [readAmount] at read
  split at read
  · cases read
    exact ⟨[], rfl, by simp, rfl, fun _ => rfl⟩
  · rename_i present
    split at read
    · rename_i n number
      cases read
      exact ⟨_, whole.symm, run, by simpa [amount?, present] using number, by simp⟩
    · cases read

theorem readOperation_ok {operator : Char} {cs rest : List Char} {op : Operation} :
    readOperation operator cs = .ok (op, rest) ↔
      ∃ digits letter unit, cs = digits ++ letter :: rest ∧
        (∀ c ∈ digits, Text.isDigit c = true) ∧ letter ∈ unit.letters ∧
        Means operator digits unit op := by
  constructor
  · intro read
    rw [readOperation] at read
    split at read
    case isFalse => cases read
    rename_i begins
    obtain ⟨⟨amount, after⟩, found, made⟩ := bind_ok.mp read
    obtain ⟨digits, rfl, run, number, none⟩ := readAmount_ok found
    cases after with
    | nil => cases made
    | cons letter after =>
      dsimp only at made
      split at made
      · cases made
      split at made
      · cases made
      rename_i noAmount _ unit named
      have letters := TimeUnit.ofChar?_eq_some.mp named
      split at made
      · rename_i slash
        cases made
        subst slash
        obtain rfl : digits = [] := none (by simpa using noAmount)
        exact ⟨[], letter, unit, rfl, by simp, letters, .round⟩
      · rename_i noSlash
        cases made
        refine ⟨digits, letter, unit, rfl, run, letters, ?_⟩
        simp only [noSlash, decide_false, Bool.or_false, Bool.or_eq_true, decide_eq_true_eq]
          at begins
        rcases begins with rfl | rfl
        · exact .ahead number
        · exact .back number
  · rintro ⟨digits, letter, unit, rfl, run, named, means⟩
    have ends := TimeUnit.isDigit_letter named
    have found := TimeUnit.ofChar?_eq_some.mpr named
    rw [readOperation, readAmount_digits run ends]
    cases means with
    | round => simp [bind, Except.bind, found]
    | ahead number | back number =>
      cases digits with
      | nil =>
        cases number
        simp [bind, Except.bind, found]
      | cons c digits =>
        simp only [amount?, List.isEmpty_cons, Bool.false_eq_true, if_false] at number
        simp [bind, Except.bind, found, number]

/-- What is read of an operation does not depend on what follows it. -/
theorem readOperation_append {operator : Char} {cs rest : List Char} {op : Operation}
    (read : readOperation operator cs = .ok (op, rest)) (more : List Char) :
    readOperation operator (cs ++ more) = .ok (op, rest ++ more) := by
  obtain ⟨digits, letter, unit, rfl, run, named, means⟩ := readOperation_ok.mp read
  exact readOperation_ok.mpr ⟨digits, letter, unit, by simp, run, named, means⟩

theorem applyText_writes_append {first : List Char} {ops : List Operation}
    (written : Writes first ops) (roundUp : Bool) (a : Anchor) (rest : List Char) :
    applyText roundUp a (first ++ rest) =
      (a.applyAll roundUp ops).mapError .calendar >>= fun next => applyText roundUp next rest := by
  induction written generalizing a with
  | nil => rfl
  | cons read _ ih =>
    rw [List.cons_append, applyText_cons (readOperation_append read rest), Anchor.applyAll,
      List.foldlM_cons]
    cases a.apply roundUp _ with
    | error fault => rfl
    | ok next => exact ih next

theorem applyText_append {roundUp : Bool} {a next : Anchor} {first : List Char}
    (applied : applyText roundUp a first = .ok next) (rest : List Char) :
    applyText roundUp a (first ++ rest) = applyText roundUp next rest := by
  obtain ⟨ops, written⟩ := writes_of_applyText applied
  rw [applyText_writes written, mapError_ok] at applied
  rw [applyText_writes_append written, applied]
  rfl

/-- The last millisecond of a day, an hour more and an unknown unit: both texts fail alike. -/
theorem end_of_day_then_unknown_unit :
    let a : Anchor := ⟨.fixed 18000, ⟨1416324615000000, false⟩⟩
    let next : Anchor := ⟨.utc, ⟨1416337199999000, false⟩⟩
    applyText true a "/d".toList = .ok next ∧
    applyText true a ("/d".toList ++ "+1h/x".toList) = applyText true next "+1h/x".toList ∧
    applyText true next "+1h/x".toList = .error (.malformed (.unknownUnit 'x')) := by
  intro a next
  have written : Writes "/d".toList [.round .day] := .cons rfl .nil
  have applied : applyText true a "/d".toList = .ok next := by
    rw [applyText_writes written]
    decide +kernel
  have hour : readOperation '+' "1h/x".toList = .ok (.shift 1 .hour, "/x".toList) := rfl
  have moved : next.apply true (.shift 1 .hour) = .ok ⟨.utc, ⟨1416340799999000, false⟩⟩ := rfl
  refine ⟨applied, applyText_append applied _, ?_⟩
  show applyText true next ('+' :: "1h/x".toList) = _
  rw [applyText_cons hour, moved]
  exact applyText_unreadable rfl true _

/-! The grammar -/

/-- The number that a run of ASCII digits writes; a missing one means one. -/
def amount (digits : List Char) : Nat := if digits.isEmpty then 1 else Nat.ofDigitChars 10 digits 0

/-- A text spells operations: one after the other, each a sign, digits and a unit, or a slash and a
unit. -/
inductive Spells : List Char → List Operation → Prop where
  | nil : Spells [] []
  | ahead {digits letter unit rest ops} : (∀ c ∈ digits, c.isDigit = true) →
      letter ∈ unit.letters → Spells rest ops →
      Spells ('+' :: (digits ++ letter :: rest)) (.shift (amount digits) unit :: ops)
  | back {digits letter unit rest ops} : (∀ c ∈ digits, c.isDigit = true) →
      letter ∈ unit.letters → Spells rest ops →
      Spells ('-' :: (digits ++ letter :: rest)) (.shift (-amount digits) unit :: ops)
  | round {letter unit rest ops} : letter ∈ unit.letters → Spells rest ops →
      Spells ('/' :: letter :: rest) (.round unit :: ops)

/-- All digits of a text are those of ASCII, and no run of them is too long for a number. -/
structure PlainDigits (text : List Char) : Prop where
  ascii : ∀ c ∈ text, Text.isDigit c = true → c.isDigit = true
  short : ∀ run, run <:+: text → (∀ c ∈ run, Text.isDigit c = true) →
    run.length ≤ Text.longestNumeral

theorem PlainDigits.part {text part : List Char} (plain : PlainDigits text)
    (inside : part <:+: text) : PlainDigits part :=
  ⟨fun c there => plain.ascii c (inside.subset there),
    fun run there => plain.short run (there.trans inside)⟩

theorem PlainDigits.amount? {digits : List Char} (plain : PlainDigits digits)
    (run : ∀ c ∈ digits, Text.isDigit c = true) : amount? digits = some (amount digits) := by
  cases digits with
  | nil => rfl
  | cons c digits =>
    exact Text.readNat?_ascii (List.cons_ne_nil c digits) (plain.short _ List.infix_rfl run)
      fun c inside => plain.ascii c inside (run c inside)

theorem PlainDigits.parts {operator letter : Char} {digits rest : List Char}
    (plain : PlainDigits (operator :: (digits ++ letter :: rest))) :
    PlainDigits digits ∧ PlainDigits rest :=
  ⟨plain.part ⟨[operator], letter :: rest, by simp⟩,
    plain.part ⟨operator :: (digits ++ [letter]), [], by simp⟩⟩

/-- With plain digits the grammar describes what is read. -/
theorem PlainDigits.spells_iff {math : List Char} {ops : List Operation}
    (plain : PlainDigits math) : Spells math ops ↔ Writes math ops := by
  constructor
  · intro spelled
    induction spelled with
    | nil => exact .nil
    | ahead ascii named _ ih =>
      have digits := fun c inside => Text.isDigit_ascii (ascii c inside)
      have number := plain.parts.1.amount? digits
      exact .cons (readOperation_ok.mpr ⟨_, _, _, rfl, digits, named, .ahead number⟩)
        (ih plain.parts.2)
    | back ascii named _ ih =>
      have digits := fun c inside => Text.isDigit_ascii (ascii c inside)
      have number := plain.parts.1.amount? digits
      exact .cons (readOperation_ok.mpr ⟨_, _, _, rfl, digits, named, .back number⟩)
        (ih plain.parts.2)
    | @round _ _ rest _ named _ ih =>
      have parts : PlainDigits [] ∧ PlainDigits rest := PlainDigits.parts plain
      exact .cons (readOperation_ok.mpr ⟨[], _, _, rfl, by simp, named, .round⟩) (ih parts.2)
  · intro written
    induction written with
    | nil => exact .nil
    | cons read _ ih =>
      obtain ⟨digits, letter, unit, rfl, run, named, means⟩ := readOperation_ok.mp read
      obtain ⟨first, last⟩ := plain.parts
      have ascii := fun c inside => first.ascii c inside (run c inside)
      have number := first.amount? run
      cases means with
      | ahead same =>
        cases number.symm.trans same
        exact .ahead ascii named (ih last)
      | back same =>
        cases number.symm.trans same
        exact .back ascii named (ih last)
      | round => exact .round named (ih last)

/-! Texts outside the grammar -/

theorem readAmount_plain {cs : List Char} (plain : PlainDigits cs) :
    ∃ found, readAmount cs = .ok found := by
  have run : ∀ c ∈ cs.takeWhile Text.isDigit, Text.isDigit c = true :=
    List.all_eq_true.mp List.all_takeWhile
  have front := List.takeWhile_prefix Text.isDigit (l := cs)
  have number := (plain.part front.isInfix).amount? run
  rw [readAmount]
  split
  · exact ⟨_, rfl⟩
  · rename_i present
    rw [DateMath.amount?, if_neg present] at number
    rw [number]
    exact ⟨_, rfl⟩

theorem readOperation_error {operator : Char} {cs : List Char} {fault : Fault}
    (plain : PlainDigits cs) (failed : readOperation operator cs = .error fault) :
    ∃ reason, fault = .malformed reason := by
  obtain ⟨⟨amount, rest⟩, found⟩ := readAmount_plain plain
  rw [readOperation, found] at failed
  simp only [bind, Except.bind] at failed
  split at failed
  case isFalse => cases failed; exact ⟨_, rfl⟩
  cases rest with
  | nil => cases failed; exact ⟨_, rfl⟩
  | cons letter rest =>
    dsimp only at failed
    split at failed
    · cases failed; exact ⟨_, rfl⟩
    · split at failed
      · cases failed; exact ⟨_, rfl⟩
      · split at failed <;> cases failed

theorem valueAfter_unwritten {math : List Char} (plain : PlainDigits math)
    (unwritten : ¬ ∃ ops, Writes math ops) (roundUp : Bool) (a : Anchor) :
    (∃ reason, valueAfter roundUp a math = .error (.malformed reason)) ∨
      ∃ fault, valueAfter roundUp a math = .error (.calendar fault) := by
  induction a, math using applyText.induct roundUp with
  | case1 a => exact absurd ⟨[], .nil⟩ unwritten
  | case2 a operator cs fault failed =>
    obtain ⟨reason, rfl⟩ := readOperation_error (plain.part ⟨[operator], [], by simp⟩) failed
    exact .inl ⟨reason, valueAfter_unreadable failed roundUp a⟩
  | case3 a operator cs op rest read fault failed =>
    rw [valueAfter_cons read, failed]
    exact .inr ⟨fault, rfl⟩
  | case4 a operator cs op rest read next moved shorter ih =>
    rw [valueAfter_cons read, moved]
    apply ih
    · obtain ⟨digits, letter, unit, rfl, -⟩ := readOperation_ok.mp read
      exact plain.parts.2
    · rintro ⟨ops, written⟩
      exact unwritten ⟨op :: ops, .cons read written⟩

/-! Expressions -/

/-- A text starts with the current moment or with an absolute date and a double bar, and has the
operations after it. -/
inductive Starts (zone : Zone) (now : Moment) : List Char → Anchor → List Char → Prop where
  | now {a math} : anchorAt zone now = .ok a → Starts zone now ('n' :: 'o' :: 'w' :: math) a math
  | date {date a math} : ¬ ['n', 'o', 'w'] <+: date → ¬ ['|', '|'] <:+: date ++ ['|'] →
      readAnchor zone (Text.trimEnds Text.isBlank date) = .ok a →
      Starts zone now (date ++ '|' :: '|' :: math) a math

theorem splitDate_first {date : List Char} (first : ¬ ['|', '|'] <:+: date ++ ['|'])
    (math : List Char) : splitDate (date ++ '|' :: '|' :: math) = (date, math) := by
  induction date with
  | nil => rfl
  | cons c date ih =>
    have later := ih fun inside => first (inside.trans (List.suffix_cons c _).isInfix)
    rw [List.cons_append, splitDate, later]
    intro rest c_bar bar
    subst c_bar
    cases date with
    | nil => exact first ⟨[], [], rfl⟩
    | cons d date =>
      cases bar
      exact first ⟨[], date ++ ['|'], rfl⟩

theorem Starts.readExpression {zone : Zone} {now : Moment} {text math : List Char} {a : Anchor}
    (starts : Starts zone now text a math) :
    readExpression zone now text = .ok (a, math) := by
  cases starts with
  | now reached => simp [DateMath.readExpression, reached, Except.map, Except.mapError]
  | @date date _ _ noNow first read =>
    unfold DateMath.readExpression
    split
    · rename_i empty
      simp at empty
    · rename_i math' same
      refine absurd ?_ noNow
      rcases date with _ | ⟨_, _ | ⟨_, _ | ⟨_, date⟩⟩⟩ <;> cases same
      exact ⟨date, rfl⟩
    · rw [splitDate_first first]
      simp [read, Except.map]

theorem valueAfter_writes {math : List Char} {ops : List Operation} (written : Writes math ops)
    (roundUp : Bool) (a : Anchor) : valueAfter roundUp a math =
      (a.applyAll roundUp ops >>= Anchor.epochMillis).mapError .calendar := by
  rw [valueAfter, applyText_writes written]
  cases a.applyAll roundUp ops <;> rfl

theorem Starts.isSound {zone : Zone} {now : Moment} {text math : List Char} {a : Anchor}
    (starts : Starts zone now text a math) (sound : zone.IsSound) : a.zone.IsSound := by
  have read := starts.readExpression
  rcases readExpression_keeps sound now text with keeps | ⟨failed, -⟩
  · rw [read] at keeps
    exact keeps
  · cases read.symm.trans failed

/-- On a sound clock exactly the texts of the grammar have a value, as far as the evaluation stays
in the years of the calendar: that to which their operations lead. All others are refused as
malformed. -/
theorem evaluate_accepts {zone : Zone} {now : Moment} {roundUp : Bool} {expression : String}
    {a : Anchor} {math : List Char} (sound : zone.IsSound)
    (starts : Starts zone now (Text.trimEnds Text.isBlank expression.toList) a math)
    (plain : PlainDigits math) (inYears : InYears (evaluate zone now roundUp expression)) :
    ((∃ value, evaluate zone now roundUp expression = .ok value) ↔ ∃ ops, Spells math ops) ∧
    ((∃ reason, evaluate zone now roundUp expression = .error (.malformed reason)) ↔
      ¬ ∃ ops, Spells math ops) ∧
    ∀ ops, Spells math ops → evaluate zone now roundUp expression =
      (a.applyAll roundUp ops >>= Anchor.epochMillis).mapError .calendar := by
  have whole : evaluate zone now roundUp expression = valueAfter roundUp a math := by
    rw [evaluate_eq, starts.readExpression]
    rfl
  have keeps := valueAfter_keeps (starts.isSound sound) roundUp math
  rw [whole] at inYears ⊢
  have led : ∀ ops, Spells math ops → valueAfter roundUp a math =
      (a.applyAll roundUp ops >>= Anchor.epochMillis).mapError .calendar :=
    fun ops spelled => valueAfter_writes (plain.spells_iff.mp spelled) roundUp a
  -- Every text has a value or is malformed, and which of the two is told by the grammar.
  have accepted : (∃ ops, Spells math ops) → ∃ value, valueAfter roundUp a math = .ok value := by
    rintro ⟨ops, spelled⟩
    have same := led ops spelled
    cases result : a.applyAll roundUp ops >>= Anchor.epochMillis with
    | ok value => exact ⟨value, by rw [same, result]; rfl⟩
    | error fault =>
      rw [result] at same
      rw [same] at keeps
      exact absurd keeps (inYears fault same)
  have refused : (¬ ∃ ops, Spells math ops) →
      ∃ reason, valueAfter roundUp a math = .error (.malformed reason) := by
    intro unspelled
    have unwritten : ¬ ∃ ops, Writes math ops := by
      rintro ⟨ops, written⟩
      exact unspelled ⟨ops, plain.spells_iff.mpr written⟩
    rcases valueAfter_unwritten plain unwritten roundUp a with malformed | ⟨fault, left⟩
    · exact malformed
    · rw [left] at keeps
      exact absurd keeps (inYears fault left)
  refine ⟨⟨?_, accepted⟩, ⟨?_, refused⟩, led⟩
  · rintro ⟨value, found⟩
    by_contra unspelled
    obtain ⟨reason, failed⟩ := refused unspelled
    cases found.symm.trans failed
  · rintro ⟨reason, failed⟩ spelled
    obtain ⟨value, found⟩ := accepted spelled
    cases found.symm.trans failed

/-- A date with operations after it has a value. -/
theorem start_of_day_a_month_later :
    let now : Moment := ⟨0, none⟩
    let a : Anchor := ⟨.utc, ⟨1416268800000000, false⟩⟩
    let math := ['+', '1', 'M', '/', 'd']
    Zone.utc.IsSound ∧
    Starts .utc now (Text.trimEnds Text.isBlank "2014-11-18||+1M/d".toList) a math ∧
    PlainDigits math ∧ InYears (evaluate .utc now false "2014-11-18||+1M/d") ∧
    Spells math [.shift 1 .month, .round .day] ∧
    ∃ value, evaluate .utc now false "2014-11-18||+1M/d" = .ok value := by
  intro now a math
  have text : Text.trimEnds Text.isBlank "2014-11-18||+1M/d".toList =
      "2014-11-18".toList ++ '|' :: '|' :: math := by decide +kernel
  have starts : Starts .utc now (Text.trimEnds Text.isBlank "2014-11-18||+1M/d".toList) a math := by
    rw [text]
    exact .date (by decide +kernel) (by decide +kernel) (by decide +kernel)
  have plain : PlainDigits math := by
    refine ⟨fun c inside digit => ?_, fun run inside _ => ?_⟩
    · have each : ∀ c ∈ math, (!Text.isDigit c || c.isDigit) = true :=
        List.all_eq_true.mp (by decide +kernel)
      simpa [digit] using each c inside
    · exact Nat.le_trans inside.length_le (by decide)
  have one : amount ['1'] = 1 := by decide
  have ascii : ∀ c ∈ ['1'], c.isDigit = true := List.all_eq_true.mp (by decide)
  have spelled : Spells math [.shift (amount ['1']) .month, .round .day] :=
    .ahead ascii List.mem_cons_self (.round List.mem_cons_self .nil)
  rw [one] at spelled
  have value : evaluate .utc now false "2014-11-18||+1M/d" = .ok 1418860800000 := by
    rw [evaluate_eq, starts.readExpression]
    show valueAfter false a math = _
    rw [valueAfter_writes (plain.spells_iff.mp spelled)]
    decide +kernel
  have sound : Zone.utc.IsSound := trivial
  exact ⟨sound, starts, plain, .of_ok value, spelled,
    (evaluate_accepts sound starts plain (.of_ok value)).1.mpr ⟨_, spelled⟩⟩

/-- The clock of a zone that is accepted, and is more than a day ahead, cannot be evaluated on even
without any operation. -/
theorem day_ahead_not_evaluated :
    let now : Moment := ⟨1416306615000000, some 0⟩
    let a : Anchor := ⟨.fixed 90000, ⟨1416396615000000, false⟩⟩
    Zone.named (some "+25:00") = .ok (.fixed 90000) ∧
    Starts (.fixed 90000) now (Text.trimEnds Text.isBlank "now".toList) a [] ∧ PlainDigits [] ∧
    InYears (evaluate (.fixed 90000) now false "now") ∧ Spells [] [] ∧
    ¬ ∃ value, evaluate (.fixed 90000) now false "now" = .ok value := by
  intro now a
  have starts : Starts (.fixed 90000) now (Text.trimEnds Text.isBlank "now".toList) a [] :=
    .now (by decide +kernel)
  have failed : evaluate (.fixed 90000) now false "now" = .error (.calendar .offsetTooLarge) := by
    rw [evaluate_eq, starts.readExpression]
    show valueAfter false a [] = _
    rw [valueAfter_nil]
    decide +kernel
  refine ⟨by decide +kernel, starts, ⟨by simp, ?_⟩, ?_, .nil, ?_⟩
  · rintro run inside -
    simp [List.eq_nil_of_infix_nil inside]
  · rintro fault same
    cases failed.symm.trans same
    simp [Calendar.Fault.LeavesYears]
  · rintro ⟨value, same⟩
    cases failed.symm.trans same

end DateMath

end PortableSearch.Calendar
