import PortableSearch.Calendar.Zone.Names
import Mathlib.Data.List.TakeDrop
import Mathlib.Data.List.TakeWhile

/-! Names of time zones that spell an offset from UTC: a sign, one or two digits for the hours, and
perhaps two digits for the minutes, with or without a colon before them. Such a text is read as the
offset that it spells, and no other text is read as an offset. -/
namespace PortableSearch.Calendar.Zone

/-- One or two decimal digits, of whichever script, spell a number of hours. -/
inductive SpellsHours : List Char → Nat → Prop where
  | digit {c : Char} {a : Nat} : Text.decimalDigit? c = some a → SpellsHours [c] a
  | pair {c d : Char} {a b : Nat} : Text.decimalDigit? c = some a → Text.decimalDigit? d = some b →
    SpellsHours [c, d] (10 * a + b)

/-- Two decimal digits spell a number of minutes, and no text spells none. -/
inductive SpellsMinutes : List Char → Nat → Prop where
  | unsaid : SpellsMinutes [] 0
  | pair {c d : Char} {a b : Nat} : Text.decimalDigit? c = some a → Text.decimalDigit? d = some b →
    SpellsMinutes [c, d] (10 * a + b)
  | colon {c d : Char} {a b : Nat} : Text.decimalDigit? c = some a →
    Text.decimalDigit? d = some b → SpellsMinutes [':', c, d] (10 * a + b)

/-- A sign, hours and minutes spell an offset, in seconds. -/
inductive SpellsOffset : List Char → Int → Prop where
  | parts {sign : Char} {hours minutes : List Char} {h m : Nat} : sign = '+' ∨ sign = '-' →
    SpellsHours hours h → SpellsMinutes minutes m →
    SpellsOffset (sign :: (hours ++ minutes)) (signed (sign = '-') (hoursMinutes h m))

variable {cs hours rest : List Char} {minutes : Option (List Char)} {c d : Char} {a h m : Nat}
  {offset : Int}

theorem digit_ne_colon (digit : Text.decimalDigit? c = some a) : ':' ≠ c := by
  have mark : Text.decimalDigit? ':' = none := by decide
  rintro rfl
  rw [mark] at digit
  cases digit

theorem readNat?_digit : Text.readNat? [c] = some h ↔ Text.decimalDigit? c = some h := by
  show (Text.decimalDigit? c).bind (fun a => some (10 * 0 + a)) = some h ↔ _
  cases Text.decimalDigit? c <;> simp

theorem readNat?_pair : Text.readNat? [c, d] = some h ↔ ∃ a b, Text.decimalDigit? c = some a ∧
    Text.decimalDigit? d = some b ∧ 10 * a + b = h := by
  show (Text.decimalDigit? c).bind (fun a => (Text.decimalDigit? d).bind fun b =>
    some (10 * (10 * 0 + a) + b)) = some h ↔ _
  cases Text.decimalDigit? c <;> cases Text.decimalDigit? d <;> simp

theorem spellsHours_iff :
    SpellsHours hours h ↔ hours.length ≤ 2 ∧ Text.readNat? hours = some h := by
  constructor
  · intro spelled
    cases spelled with
    | digit digit => exact ⟨Nat.le_succ 1, readNat?_digit.mpr digit⟩
    | pair digit digit' => exact ⟨le_rfl, readNat?_pair.mpr ⟨_, _, digit, digit', rfl⟩⟩
  · rintro ⟨short, read⟩
    match hours, short with
    | [], _ => cases read
    | [c], _ => exact .digit (readNat?_digit.mp read)
    | [c, d], _ =>
      obtain ⟨a, b, digit, digit', rfl⟩ := readNat?_pair.mp read
      exact .pair digit digit'

theorem SpellsHours.plain (spelled : SpellsHours hours h) : ':' ∉ hours := by
  cases spelled with
  | digit digit => simpa using digit_ne_colon digit
  | pair digit digit' => simpa using ⟨digit_ne_colon digit, digit_ne_colon digit'⟩

/-! Where the hours end -/

theorem splitHours_colon (plain : ':' ∉ hours) (rest : List Char) :
    splitHours (hours ++ ':' :: rest) = (hours, some rest) := by
  have before : ∀ c ∈ hours, (c != ':') = true := by
    intro c inside
    simpa using fun same : c = ':' => plain (same ▸ inside)
  rw [splitHours, List.span_eq_takeWhile_dropWhile, List.takeWhile_append_of_pos before,
    List.dropWhile_append_of_pos before]
  simp

theorem splitHours_plain (plain : ':' ∉ cs) : splitHours cs =
    if cs.length ≤ 2 then (cs, none)
    else (cs.take (cs.length - 2), some (cs.drop (cs.length - 2))) := by
  have digits : ∀ c ∈ cs, (c != ':') = true := by
    intro c inside
    simpa using fun same : c = ':' => plain (same ▸ inside)
  rw [splitHours, List.span_eq_takeWhile_dropWhile, List.takeWhile_eq_self_iff.mpr digits,
    List.dropWhile_eq_nil_iff.mpr digits]

/-- The parts are those of the text, with a colon between them or without. -/
theorem splitHours_spec (split : splitHours cs = (hours, minutes)) :
    (minutes = none ∧ cs = hours) ∨
      ∃ rest, minutes = some rest ∧ (cs = hours ++ rest ∨ cs = hours ++ ':' :: rest) := by
  by_cases colon : ':' ∈ cs
  · obtain ⟨before, after, rfl, plain⟩ := List.eq_append_cons_of_mem colon
    rw [splitHours_colon plain] at split
    cases split
    exact .inr ⟨after, rfl, .inr rfl⟩
  · rw [splitHours_plain colon] at split
    split at split <;> cases split
    · exact .inl ⟨rfl, rfl⟩
    · exact .inr ⟨_, rfl, .inl (List.take_append_drop _ _).symm⟩

/-- The minutes that stand after the hours, if any. -/
def readMinutes? (minutes : Option (List Char)) : Option Nat :=
  match minutes with
  | none => some 0
  | some digits => if digits.length = 2 then Text.readNat? digits else none

theorem SpellsMinutes.split (spelled : SpellsMinutes rest m) (before : SpellsHours hours h) :
    ∃ minutes, splitHours (hours ++ rest) = (hours, minutes) ∧ readMinutes? minutes = some m := by
  obtain ⟨short, -⟩ := spellsHours_iff.mp before
  cases spelled with
  | unsaid =>
    refine ⟨none, ?_, rfl⟩
    rw [List.append_nil, splitHours_plain before.plain, if_pos short]
  | @pair c d a b digit digit' =>
    have plain : ':' ∉ hours ++ [c, d] := by
      simpa using ⟨before.plain, digit_ne_colon digit, digit_ne_colon digit'⟩
    have long : ¬ (hours ++ [c, d]).length ≤ 2 := by
      cases before <;> simp
    refine ⟨some [c, d], ?_, readNat?_pair.mpr ⟨_, _, digit, digit', rfl⟩⟩
    rw [splitHours_plain plain, if_neg long]
    simp
  | @colon c d a b digit digit' =>
    exact ⟨some [c, d], splitHours_colon before.plain _,
      readNat?_pair.mpr ⟨_, _, digit, digit', rfl⟩⟩

theorem spellsMinutes_of_read (split : splitHours cs = (hours, minutes))
    (read : readMinutes? minutes = some m) : ∃ rest, cs = hours ++ rest ∧ SpellsMinutes rest m := by
  rcases splitHours_spec split with ⟨rfl, rfl⟩ | ⟨digits, rfl, parts⟩
  · cases read
    exact ⟨[], (List.append_nil _).symm, .unsaid⟩
  · have two : digits.length = 2 := by
      by_contra other
      rw [readMinutes?, if_neg other] at read
      cases read
    rw [readMinutes?, if_pos two] at read
    match digits, two with
    | [c, d], _ =>
      obtain ⟨a, b, digit, digit', rfl⟩ := readNat?_pair.mp read
      rcases parts with rfl | rfl
      · exact ⟨_, rfl, .pair digit digit'⟩
      · exact ⟨_, rfl, .colon digit digit'⟩

/-! Names -/

theorem readOffset?_cons (sign : Char) (split : splitHours cs = (hours, minutes)) :
    readOffset? (sign :: cs) = some offset ↔ (sign = '+' ∨ sign = '-') ∧ hours.length ≤ 2 ∧
      ∃ h m, Text.readNat? hours = some h ∧ readMinutes? minutes = some m ∧
        signed (sign = '-') (hoursMinutes h m) = offset := by
  have read : readOffset? (sign :: cs) = guard (sign = '+' || sign = '-') >>= fun _ =>
      guard (hours.length ≤ 2) >>= fun _ => Text.readNat? hours >>= fun h =>
        readMinutes? minutes >>= fun m => some (signed (sign = '-') (hoursMinutes h m)) := by
    rw [readOffset?, split]
    unfold guard
    cases minutes with
    | none => rfl
    | some digits =>
      by_cases two : digits.length = 2
      · simp only [readMinutes?, if_pos two]
        rfl
      · simp only [readMinutes?, if_neg two]
        rfl
  rw [read]
  unfold guard
  simp [Option.bind_eq_some_iff, or_iff_not_imp_left]

/-- The texts that are read as an offset are those that spell it. -/
theorem readOffset?_iff : readOffset? cs = some offset ↔ SpellsOffset cs offset := by
  constructor
  · intro read
    cases cs with
    | nil => cases read
    | cons sign cs =>
      obtain ⟨signs, short, h, m, hour, minute, rfl⟩ := (readOffset?_cons sign rfl).mp read
      obtain ⟨rest, whole, spelled⟩ := spellsMinutes_of_read rfl minute
      rw [whole]
      exact .parts signs (spellsHours_iff.mpr ⟨short, hour⟩) spelled
  · rintro ⟨signs, spelled, spelled'⟩
    obtain ⟨short, hour⟩ := spellsHours_iff.mp spelled
    obtain ⟨minutes, split, minute⟩ := spelled'.split spelled
    exact (readOffset?_cons _ split).mpr ⟨signs, short, _, _, hour, minute, rfl⟩

/-- A name, without the blanks at its ends, spells an offset. -/
def NamesOffset (name : String) (offset : Int) : Prop :=
  SpellsOffset (Text.trimEnds Text.isBlank name.toList) offset

variable {name : String}

theorem trimEnds_subset (drop : Char → Bool) (cs : List Char) : Text.trimEnds drop cs ⊆ cs := by
  intro c inside
  have inside' := (List.dropWhile_sublist _).subset (List.mem_reverse.mp inside)
  exact (List.dropWhile_sublist _).subset (List.mem_reverse.mp inside')

/-- No name of UTC has a sign, in whichever letter case. -/
theorem not_isUtcName {sign : Char} (signs : sign = '+' ∨ sign = '-')
    (inside : sign ∈ name.toList) : isUtcName name = false := by
  rw [isUtcName, Bool.eq_false_iff]
  intro utc
  have upper : sign ∈ name.toList.map Char.toUpper :=
    List.mem_map.mpr ⟨sign, inside, by rcases signs with rfl | rfl <;> rfl⟩
  -- Letters may change their case, but a sign stays a sign.
  have plain : ∀ utc ∈ utcNames, '+' ∉ utc.toList ∧ '-' ∉ utc.toList := by decide +kernel
  obtain ⟨noPlus, noMinus⟩ := plain _ (List.contains_iff_mem.mp utc)
  rw [String.toList_ofList] at noPlus noMinus
  rcases signs with rfl | rfl
  · exact noPlus upper
  · exact noMinus upper

/-- Such a name means the offset that it spells, however large. -/
theorem NamesOffset.named (spelled : NamesOffset name offset) :
    named (some name) = .ok (.fixed offset) := by
  have read := readOffset?_iff.mpr spelled
  obtain ⟨sign, signs, inside⟩ : ∃ sign, (sign = '+' ∨ sign = '-') ∧ sign ∈ name.toList := by
    have within := trimEnds_subset Text.isBlank name.toList
    unfold NamesOffset at spelled
    generalize Text.trimEnds Text.isBlank name.toList = cs at spelled within
    obtain ⟨signs, -, -⟩ := spelled
    exact ⟨_, signs, within List.mem_cons_self⟩
  have some : name.isEmpty = false := by
    rw [Bool.eq_false_iff]
    intro empty
    rw [String.isEmpty_iff.mp empty] at inside
    cases inside
  rw [Zone.named, some, not_isUtcName signs inside, read]
  rfl

end PortableSearch.Calendar.Zone
