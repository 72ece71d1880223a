import PortableSearch.Proofs.DateMath.SoundZone
import PortableSearch.Proofs.Outcome
import PortableSearch.Proofs.Text.Digits

/-! Which failures of date math are declared: that a text is no expression, or its date no date.
Besides, an evaluation fails where a run of digits writes no number, where a date has more digits
than are calculated with, and where the calendar ends. So all its failures are declared exactly if
it meets none of these wherever it gets. In a zone whose offsets are below a day the calendar ends
only with its years. -/
namespace PortableSearch.Calendar.DateMath
variable {α β : Type}

/-- The failure is that of a text that is no expression or no date. -/
def Fault.IsDeclared : Fault → Prop
  | .malformed _ | .date .unreadable => True
  | .date .tooLong | .unreadableNumber | .calendar _ => False

/-- Where the computation fails, the failure is declared. -/
def Declared (r : Except Fault α) : Prop := ∀ fault, r = .error fault → fault.IsDeclared

namespace Declared

theorem ok (a : α) : Declared (.ok a) := nofun

theorem error_iff {fault : Fault} : Declared (.error fault : Except Fault α) ↔ fault.IsDeclared :=
  ⟨fun declared => declared fault rfl, fun declared _ same => by cases same; exact declared⟩

theorem bind_iff {r : Except Fault α} {f : α → Except Fault β} :
    Declared (r >>= f) ↔ Declared r ∧ ∀ a, r = .ok a → Declared (f a) := by
  cases r with
  | error fault => simp [bind, Except.bind, error_iff]
  | ok a => simp [bind, Except.bind, ok]

theorem map_iff {r : Except Fault α} {f : α → β} : Declared (r.map f) ↔ Declared r := by
  cases r with
  | error fault => simp only [Except.map, error_iff]
  | ok a => exact ⟨fun _ => ok a, fun _ => ok (f a)⟩

theorem calendar_iff {r : Except Calendar.Fault α} :
    Declared (r.mapError Fault.calendar) ↔ ∃ a, r = .ok a := by
  cases r with
  | error fault => simp [Except.mapError, error_iff, Fault.IsDeclared]
  | ok a => simp [Except.mapError, ok]

theorem calendar_iff_forall {r : Except Calendar.Fault α} :
    Declared (r.mapError Fault.calendar) ↔
      ∀ fault, r.mapError Fault.calendar ≠ .error (.calendar fault) := by
  cases r with
  | error fault => simp [Except.mapError, error_iff, Fault.IsDeclared]
  | ok a => simp [Except.mapError, ok]

end Declared

/-! Operations -/

/-- The characters that begin an operation. -/
def operators : List Char := ['+', '-', '/']

theorem readAmount_declared (cs : List Char) :
    Declared (readAmount cs) ↔ Text.WritesNumber (cs.takeWhile Text.isDigit) := by
  simp only [readAmount]
  generalize cs.takeWhile Text.isDigit = run
  cases run with
  | nil => simp [Declared.ok, Text.WritesNumber]
  | cons c run =>
    have unreadable := Text.readNat?_eq_none (List.cons_ne_nil c run)
    cases read : Text.readNat? (c :: run) with
    | none =>
      rw [read] at unreadable
      have wrong := unreadable.mp rfl
      simp [Declared.error_iff, Fault.IsDeclared, wrong]
    | some n =>
      rw [read] at unreadable
      have right : Text.WritesNumber (c :: run) := Decidable.not_not.mp fun wrong =>
        Option.some_ne_none n (unreadable.mpr wrong)
      simp [Declared.ok, right]

/-- Of an operation only the digits of its number can be wrong without this being declared. -/
theorem readOperation_declared (operator : Char) (cs : List Char) :
    Declared (readOperation operator cs) ↔
      (operator ∈ operators → Text.WritesNumber (cs.takeWhile Text.isDigit)) := by
  have sign : (decide (operator = '+') || decide (operator = '-') || decide (operator = '/')) =
      true ↔ operator ∈ operators := by
    simp [operators, or_assoc]
  rw [readOperation]
  split
  · rename_i begins
    rw [Declared.bind_iff, readAmount_declared]
    refine ⟨fun both _ => both.1, fun digits => ⟨digits (sign.mp begins), ?_⟩⟩
    rintro ⟨amount, rest⟩ -
    cases rest with
    | nil => exact Declared.error_iff.mpr trivial
    | cons letter rest =>
      dsimp only
      split
      · exact Declared.error_iff.mpr trivial
      · split
        · exact Declared.error_iff.mpr trivial
        · split <;> exact Declared.ok _
  · rename_i begins
    exact ⟨fun _ inside => absurd (sign.mpr inside) begins,
      fun _ => Declared.error_iff.mpr trivial⟩

/-! Runs -/

/-- Applying the operations of a text leads from an anchor to an anchor and the rest of the text. -/
inductive Leads (roundUp : Bool) : Anchor → List Char → Anchor → List Char → Prop where
  | here {a math} : Leads roundUp a math a math
  | step {a operator cs op rest next last math} :
      readOperation operator cs = .ok (op, rest) → a.apply roundUp op = .ok next →
      Leads roundUp next rest last math → Leads roundUp a (operator :: cs) last math

/-- At the end of the text the anchor has a moment; before it, the digits that follow an operator
write a number, and an operation that can be read can be applied. -/
def GoesOn (roundUp : Bool) (a : Anchor) : List Char → Prop
  | [] => ∃ millis, a.epochMillis = .ok millis
  | operator :: cs =>
    (operator ∈ operators → Text.WritesNumber (cs.takeWhile Text.isDigit)) ∧
      ∀ op rest, readOperation operator cs = .ok (op, rest) → ∃ next, a.apply roundUp op = .ok next

/-- The value that the operations of a text lead to. -/
def valueAfter (roundUp : Bool) (a : Anchor) (math : List Char) : Except Fault Int :=
  applyText roundUp a math >>= fun last => last.epochMillis.mapError .calendar

theorem valueAfter_nil (roundUp : Bool) (a : Anchor) :
    valueAfter roundUp a [] = a.epochMillis.mapError .calendar := by
  rw [valueAfter, applyText]
  rfl

theorem valueAfter_unreadable {operator : Char} {cs : List Char} {fault : Fault}
    (failed : readOperation operator cs = .error fault) (roundUp : Bool) (a : Anchor) :
    valueAfter roundUp a (operator :: cs) = .error fault := by
  rw [valueAfter, applyText_unreadable failed]
  rfl

theorem valueAfter_cons {operator : Char} {cs rest : List Char} {op : Operation}
    (read : readOperation operator cs = .ok (op, rest)) (roundUp : Bool) (a : Anchor) :
    valueAfter roundUp a (operator :: cs) =
      (a.apply roundUp op).mapError .calendar >>= fun next => valueAfter roundUp next rest := by
  rw [valueAfter, applyText_cons read]
  cases a.apply roundUp op <;> rfl

/-- A run fails first in its first operation, or else in the rest from there. -/
theorem valueAfter_cons_declared (roundUp : Bool) (a : Anchor) (operator : Char) (cs : List Char) :
    Declared (valueAfter roundUp a (operator :: cs)) ↔ GoesOn roundUp a (operator :: cs) ∧
      ∀ op rest next, readOperation operator cs = .ok (op, rest) → a.apply roundUp op = .ok next →
        Declared (valueAfter roundUp next rest) := by
  rw [GoesOn, ← readOperation_declared]
  cases read : readOperation operator cs with
  | error fault =>
    rw [valueAfter_unreadable read]
    simp [Declared.error_iff]
  | ok found =>
    obtain ⟨op, rest⟩ := found
    rw [valueAfter_cons read, Declared.bind_iff, Declared.calendar_iff]
    simp only [mapError_ok, Except.ok.injEq, Prod.mk.injEq]
    constructor
    · rintro ⟨applies, rests⟩
      refine ⟨⟨Declared.ok _, ?_⟩, ?_⟩
      · rintro _ _ ⟨rfl, rfl⟩
        exact applies
      · rintro _ _ next ⟨rfl, rfl⟩ moved
        exact rests next moved
    · rintro ⟨⟨-, applies⟩, rests⟩
      exact ⟨applies op rest ⟨rfl, rfl⟩, fun next moved => rests op rest next ⟨rfl, rfl⟩ moved⟩

theorem leads_nil {roundUp : Bool} {a last : Anchor} {math : List Char}
    (leads : Leads roundUp a [] last math) : last = a ∧ math = [] := by
  cases leads
  exact ⟨rfl, rfl⟩

/-- A run declares its failures exactly if it can go on wherever it gets. -/
theorem valueAfter_declared (roundUp : Bool) (a : Anchor) (math : List Char) :
    Declared (valueAfter roundUp a math) ↔
      ∀ last rest, Leads roundUp a math last rest → GoesOn roundUp last rest := by
  -- The induction is on the length of the text, which every operation that can be read shortens.
  induction size : math.length using Nat.strongRecOn generalizing a math with
  | ind n ih =>
  cases math with
  | nil =>
    rw [valueAfter_nil, Declared.calendar_iff]
    constructor
    · intro ends last rest leads
      obtain ⟨rfl, rfl⟩ := leads_nil leads
      exact ends
    · intro goesOn
      exact goesOn a [] .here
  | cons operator cs =>
    have later : ∀ op rest next, readOperation operator cs = .ok (op, rest) →
        (Declared (valueAfter roundUp next rest) ↔
          ∀ last math, Leads roundUp next rest last math → GoesOn roundUp last math) :=
      fun op rest next read => ih rest.length
        (size ▸ Nat.lt_succ_of_lt (readOperation_length read)) next rest rfl
    rw [valueAfter_cons_declared]
    constructor
    · rintro ⟨first, rests⟩ last rest leads
      cases leads with
      | here => exact first
      | step read moved leads => exact (later _ _ _ read).mp (rests _ _ _ read moved) _ _ leads
    · intro goesOn
      refine ⟨goesOn a _ .here, fun op rest next read moved => ?_⟩
      exact (later _ _ _ read).mpr fun last math leads => goesOn last math (.step read moved leads)

/-! Anchors -/

/-- The text of a date counts milliseconds. -/
def CountsMillis (date : List Char) : Prop :=
  date.all Text.isDigit = true ∧ leastMillisDigits ≤ date.length

instance (date : List Char) : Decidable (CountsMillis date) := inferInstanceAs (Decidable (_ ∧ _))

/-- A date has no number that cannot be calculated with, and is on the clock of the zone if it can
be read. -/
def DateBegins (zone : Zone) (date : List Char) : Prop :=
  (if CountsMillis date then Text.WritesNumber date else Written.read date ≠ .error .tooLong) ∧
    ∀ fault, readAnchor zone date ≠ .error (.calendar fault)

/-- The current moment is on the clock of the zone where an expression begins with it, and otherwise
its date is. -/
def Begins (zone : Zone) (now : Moment) : List Char → Prop
  | [] => True
  | 'n' :: 'o' :: 'w' :: _ => ∃ a, anchorAt zone now = .ok a
  | cs => DateBegins zone (Text.trimEnds Text.isBlank (splitDate cs).1)

theorem readAnchor_declared (zone : Zone) (date : List Char) :
    Declared (readAnchor zone date) ↔ DateBegins zone date := by
  have counts : (date.all Text.isDigit && decide (leastMillisDigits ≤ date.length)) = true ↔
      CountsMillis date := by
    simp [CountsMillis]
  rw [DateBegins, readAnchor]
  split
  · rename_i millis
    have present : date ≠ [] := by
      rintro rfl
      simp [leastMillisDigits] at millis
    have unreadable := Text.readNat?_eq_none present
    rw [if_pos (counts.mp millis)]
    cases read : Text.readNat? date with
    | none =>
      simp [Declared.error_iff, Fault.IsDeclared, unreadable.mp read]
    | some n =>
      have right : Text.WritesNumber date := Decidable.not_not.mp fun wrong => by
        rw [unreadable.mpr wrong] at read
        cases read
      simp [Declared.calendar_iff_forall, right]
  · rename_i written
    rw [if_neg fun millis => written (counts.mpr millis)]
    cases read : Written.read date with
    | error fault => cases fault <;> simp [Declared.error_iff, Fault.IsDeclared]
    | ok m =>
      obtain ⟨wall, _ | offset⟩ := m <;> simp [Declared.calendar_iff_forall]

theorem readExpression_declared (zone : Zone) (now : Moment) (cs : List Char) :
    Declared (readExpression zone now cs) ↔ Begins zone now cs := by
  unfold readExpression
  split
  · exact ⟨fun _ => trivial, fun _ => Declared.error_iff.mpr trivial⟩
  · rw [Declared.calendar_iff, Begins]
    simp only [map_ok]
    constructor
    · rintro ⟨_, a, there, -⟩
      exact ⟨a, there⟩
    · rintro ⟨a, there⟩
      exact ⟨_, a, there, rfl⟩
  · rename_i present noNow
    rw [Declared.map_iff, readAnchor_declared, Begins]
    · exact present
    · exact noNow

/-! The end of the calendar -/

/-- The computation has a result with the property, unless it leaves the years of the calendar or
fails for a reason that is not in the calendar. -/
def Keeps (r : Except Fault α) (property : α → Prop) : Prop :=
  match r with
  | .ok result => property result
  | .error (.calendar fault) => fault.LeavesYears
  | .error _ => True

namespace Keeps

theorem calendar {r : Except Calendar.Fault α} {P : α → Prop} (yields : Yields r P) :
    Keeps (r.mapError .calendar) P := by
  cases r with
  | error fault => exact yields
  | ok a => exact yields

theorem bind {r : Except Fault α} {f : α → Except Fault β} {P : α → Prop} {Q : β → Prop}
    (first : Keeps r P) (rest : ∀ a, P a → Keeps (f a) Q) : Keeps (r >>= f) Q := by
  cases r with
  | error fault => cases fault <;> exact first
  | ok a => exact rest a first

theorem map {r : Except Fault α} {f : α → β} {P : α → Prop} {Q : β → Prop}
    (first : Keeps r P) (rest : ∀ a, P a → Q (f a)) : Keeps (r.map f) Q := by
  cases r with
  | error fault => cases fault <;> exact first
  | ok a => exact rest a first

end Keeps

theorem readAmount_keeps (cs : List Char) : Keeps (readAmount cs) fun _ => True := by
  unfold readAmount
  dsimp only
  split
  · trivial
  · split <;> trivial

theorem readOperation_keeps (operator : Char) (cs : List Char) :
    Keeps (readOperation operator cs) fun _ => True := by
  unfold readOperation
  split
  · refine (readAmount_keeps cs).bind fun found _ => ?_
    dsimp only
    split
    · trivial
    · split
      · trivial
      · split
        · trivial
        · split <;> trivial
  · trivial

theorem valueAfter_keeps {a : Anchor} (sound : a.zone.IsSound) (roundUp : Bool)
    (math : List Char) : Keeps (valueAfter roundUp a math) fun _ => True := by
  -- What is kept from one operation to the next is that the clock is sound.
  induction size : math.length using Nat.strongRecOn generalizing a math with
  | ind n ih =>
  cases math with
  | nil =>
    rw [valueAfter_nil]
    exact .calendar (epochMillis_stays sound)
  | cons operator cs =>
    have readable := readOperation_keeps operator cs
    cases read : readOperation operator cs with
    | error fault =>
      rw [read] at readable
      rw [valueAfter_unreadable read]
      cases fault <;> exact readable
    | ok found =>
      obtain ⟨op, rest⟩ := found
      have shorter : rest.length < n := size ▸ Nat.lt_succ_of_lt (readOperation_length read)
      rw [valueAfter_cons read]
      exact (Keeps.calendar (apply_sound sound roundUp op)).bind fun next soundNext =>
        ih rest.length shorter soundNext rest rfl

/-- The date of an expression is written with an offset of a day or more. -/
def WritesLongOffset (date : List Char) : Prop :=
  ∃ wall offset, Written.read date = .ok ⟨wall, some offset⟩ ∧ ¬ IsShort offset

theorem readAnchor_keeps {zone : Zone} (sound : zone.IsSound) (date : List Char) :
    Keeps (readAnchor zone date) (·.zone.IsSound) ∨
      readAnchor zone date = .error (.calendar .offsetTooLarge) ∧ WritesLongOffset date := by
  unfold readAnchor
  split
  · left
    split
    · trivial
    · exact .calendar (anchorAt_sound sound _)
  · split
    · exact .inl trivial
    · exact .inl (.calendar ((sound.resolve _).map fun _ _ => sound))
    · rename_i wall offset read
      by_cases short : IsShort offset
      · have fixed : (Zone.fixed offset).IsSound := short
        exact .inl (.calendar ((fixed.toUtc _).bind fun utc _ =>
          (sound.ofUtc utc).map fun _ _ => sound))
      · refine .inr ⟨?_, wall, offset, read, short⟩
        have stated : (Zone.fixed offset).toUtc ⟨wall, false⟩ = .error .offsetTooLarge := by
          rw [IsShort] at short
          simp [Zone.toUtc, Zone.instantOf, Zone.offsetAt, Zone.statedOffset, bind, Except.bind,
            short]
          rfl
        rw [stated]
        rfl

theorem readExpression_keeps {zone : Zone} (sound : zone.IsSound) (now : Moment) (cs : List Char) :
    Keeps (readExpression zone now cs) (·.1.zone.IsSound) ∨
      readExpression zone now cs = .error (.calendar .offsetTooLarge) ∧
        WritesLongOffset (Text.trimEnds Text.isBlank (splitDate cs).1) := by
  unfold readExpression
  split
  · exact .inl trivial
  · exact .inl (.calendar ((anchorAt_sound sound now).map fun _ soundAnchor => soundAnchor))
  · dsimp only
    rcases readAnchor_keeps sound (Text.trimEnds Text.isBlank (splitDate cs).1) with keeps | long
    · exact .inl (keeps.map fun _ soundAnchor => soundAnchor)
    · refine .inr ⟨?_, long.2⟩
      rw [long.1]
      rfl

/-! Evaluation -/

theorem evaluate_eq (zone : Zone) (now : Moment) (roundUp : Bool) (expression : String) :
    evaluate zone now roundUp expression =
      readExpression zone now (Text.trimEnds Text.isBlank expression.toList) >>=
        fun p => valueAfter roundUp p.1 p.2 :=
  rfl

/-- All failures of an evaluation are declared exactly if its date and each run of digits that it
gets to can be calculated with and it never leaves the calendar of the zone. In a sound zone that
is to leave the years of the calendar, except that a date may be written with a longer offset than
any zone has. -/
theorem evaluate_declared (zone : Zone) (now : Moment) (roundUp : Bool) (expression : String) :
    let text := Text.trimEnds Text.isBlank expression.toList
    (Declared (evaluate zone now roundUp expression) ↔ Begins zone now text ∧
      ∀ a math, readExpression zone now text = .ok (a, math) →
        ∀ last rest, Leads roundUp a math last rest → GoesOn roundUp last rest) ∧
    (zone.IsSound → ∀ fault, evaluate zone now roundUp expression = .error (.calendar fault) →
      fault.LeavesYears ∨ fault = .offsetTooLarge ∧
        WritesLongOffset (Text.trimEnds Text.isBlank (splitDate text).1)) := by
  intro text
  rw [evaluate_eq]
  constructor
  · rw [Declared.bind_iff, readExpression_declared]
    simp only [Prod.forall, valueAfter_declared]
    rfl
  · intro sound fault failed
    rcases readExpression_keeps sound now text with keeps | ⟨long, writes⟩
    · have all := keeps.bind fun p soundAnchor => valueAfter_keeps soundAnchor roundUp p.2
      rw [failed] at all
      exact .inl all
    · rw [long] at failed
      cases failed
      exact .inr ⟨rfl, writes⟩

/-- In UTC a sum far beyond the calendar fails by leaving its years. -/
theorem far_year_leaves_calendar :
    let now : Moment := ⟨1416306615000000, some 0⟩
    Zone.utc.IsSound ∧
    evaluate .utc now false ("now" ++ "+99999999999y") = .error (.calendar .beyondCalendar) ∧
    Calendar.Fault.beyondCalendar.LeavesYears := by
  intro now
  have failed : evaluate .utc now false ("now" ++ "+99999999999y") =
      .error (.calendar .beyondCalendar) := by
    have written : Writes (trimRight "+99999999999y".toList) [.shift 99999999999 .year] :=
      .cons rfl .nil
    rw [evaluate_now written]
    decide +kernel
  refine ⟨trivial, failed, ?_⟩
  rcases (evaluate_declared .utc now false _).2 trivial _ failed with leaves | ⟨same, -⟩
  · exact leaves
  · cases same

/-- A figure that is no decimal digit, sums that leave the calendar and a zone whose offset is a day
or more fail without any of this being declared. -/
theorem failures_not_declared :
    let now : Moment := ⟨1416306615000000, some 0⟩
    Zone.named (some "UTC") = .ok .utc ∧ Zone.named (some "+25:00") = .ok (.fixed 90000) ∧
    ¬ Declared (evaluate .utc now false ("now" ++ "+²d")) ∧
    ¬ Declared (evaluate .utc now false ("now" ++ "+99999999999y")) ∧
    ¬ Declared (evaluate .utc now false ("now" ++ "+7986y")) ∧
    ¬ Declared (evaluate (.fixed 90000) now false ("now" ++ "")) := by
  intro now
  have figure : evaluate .utc now false ("now" ++ "+²d") = .error .unreadableNumber := by
    rw [evaluate_eq, trimEnds_now]
    exact valueAfter_unreadable rfl false _
  have far : evaluate .utc now false ("now" ++ "+99999999999y") =
      .error (.calendar .beyondCalendar) := by
    have written : Writes (trimRight "+99999999999y".toList) [.shift 99999999999 .year] :=
      .cons rfl .nil
    rw [evaluate_now written]
    decide +kernel
  have past : evaluate .utc now false ("now" ++ "+7986y") = .error (.calendar .noSuchYear) := by
    have written : Writes (trimRight "+7986y".toList) [.shift 7986 .year] := .cons rfl .nil
    rw [evaluate_now written]
    decide +kernel
  have wide : evaluate (.fixed 90000) now false ("now" ++ "") =
      .error (.calendar .offsetTooLarge) := by
    have written : Writes (trimRight "".toList) [] := .nil
    rw [evaluate_now written]
    decide +kernel
  refine ⟨by decide +kernel, by decide +kernel, ?_, ?_, ?_, ?_⟩
  · exact fun declared => declared _ figure
  · exact fun declared => declared _ far
  · exact fun declared => declared _ past
  · exact fun declared => declared _ wide

end PortableSearch.Calendar.DateMath
