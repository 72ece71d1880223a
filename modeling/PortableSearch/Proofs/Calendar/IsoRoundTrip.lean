import PortableSearch.Proofs.Calendar.IsoRead

/-! Reading back the ISO text of a moment. Each part of the text has a fixed number of digits and is
read up to the mark behind it, so that every moment of the calendar is read as it was written, with
its offset or without one. -/
namespace PortableSearch.Calendar
variable {width n : Nat} {run rest : List Char} {offset : Int}

theorem readPlaces_numeral (numeral : IsNumeral (width + 1) n run)
    (short : width < Text.longestNumeral) (rest : List Char) :
    readPlaces (width + 1) (run ++ rest) = some (n, rest) := by
  have there : width + 1 ≤ (run ++ rest).length := by
    rw [List.length_append, numeral.length]
    exact Nat.le_add_right _ _
  have taken : (run ++ rest).take (width + 1) = run := by
    rw [← numeral.length, List.take_left]
  have left : (run ++ rest).drop (width + 1) = rest := by
    rw [← numeral.length, List.drop_left]
  rw [readPlaces, taken, left, numeral.readNat? short, guard, if_pos there]
  rfl

theorem readPlaces_two (fits : n < 100) (rest : List Char) :
    readPlaces 2 (paddedDigits 2 n ++ rest) = some (n, rest) :=
  readPlaces_numeral (paddedDigits_isNumeral (by decide) fits) (by decide) rest

theorem readPlaces_four (fits : n < 10000) (rest : List Char) :
    readPlaces 4 (paddedDigits 4 n ++ rest) = some (n, rest) :=
  readPlaces_numeral (paddedDigits_isNumeral (by decide) fits) (by decide) rest

theorem readPart_two (fits : n < 100) (rest : List Char) :
    readPart (':' :: (paddedDigits 2 n ++ rest)) = some (some n, rest) := by
  rw [readPart, readPlaces_two fits]
  rfl

/-- What follows the seconds: an offset, or nothing. -/
def EndsClock (rest : List Char) : Prop :=
  ∀ c ∈ rest.head?, Text.isDecimalDigit c = false ∧ c ≠ '.' ∧ c ≠ ','

theorem readFraction_text {micro : Nat} (fits : micro < 1000000) (ends : EndsClock rest) :
    readFraction (fractionText micro ++ rest) = some (micro, rest) := by
  unfold fractionText
  split
  · rename_i zero
    rw [zero, List.nil_append]
    cases rest with
    | nil => rfl
    | cons c rest =>
      obtain ⟨-, noPoint, noComma⟩ := ends c rfl
      simp [readFraction, noPoint, noComma]
  · have digits : IsNumeral 6 micro (paddedDigits 6 micro) :=
      paddedDigits_isNumeral (by decide) fits
    have decimal : ∀ c ∈ paddedDigits 6 micro, Text.isDecimalDigit c = true := by
      intro c inside
      rw [Text.isDecimalDigit, Text.decimalDigit?_ascii (digits.ascii c inside)]
      rfl
    have none : rest.takeWhile Text.isDecimalDigit = [] ∧
        rest.dropWhile Text.isDecimalDigit = rest := by
      cases rest with
      | nil => exact ⟨rfl, rfl⟩
      | cons c rest => simp [(ends c rfl).1]
    -- The digits are filled up to six with zeros, and there are six already.
    have six : (paddedDigits 6 micro ++ List.replicate 6 '0').take 6 = paddedDigits 6 micro :=
      List.take_left' digits.length
    simp only [List.cons_append, readFraction, List.takeWhile_append_of_pos decimal,
      List.dropWhile_append_of_pos decimal, none, List.append_nil, six,
      digits.readNat? (by decide)]
    simp [digits.ne_nil]

theorem filter_two (fits : n < 100) (rest : List Char) :
    (paddedDigits 2 n ++ rest).filter (· != ':') =
      paddedDigits 2 n ++ rest.filter (· != ':') := by
  have digits : IsNumeral 2 n (paddedDigits 2 n) := paddedDigits_isNumeral (by decide) fits
  have plain : ∀ c ∈ paddedDigits 2 n, (c != ':') = true := by
    intro c inside
    simpa using fun same : c = ':' => absurd (same ▸ digits.ascii c inside) (by decide)
  rw [List.filter_append, List.filter_eq_self.mpr plain]

/-- Two digits, if the text goes on. -/
def readFurther (cs : List Char) : Option (Nat × List Char) :=
  if cs.isEmpty then some (0, []) else readPlaces 2 cs

theorem readFurther_two (fits : n < 100) (rest : List Char) :
    readFurther (paddedDigits 2 n ++ rest) = some (n, rest) := by
  have numeral : IsNumeral 2 n (paddedDigits 2 n) := paddedDigits_isNumeral (by decide) fits
  have filled : ¬ (paddedDigits 2 n ++ rest).isEmpty = true := by simp [numeral.ne_nil]
  rw [readFurther, if_neg filled, readPlaces_two fits]

theorem readFurther_bind {β : Type} (cs : List Char) (next : Nat × List Char → Option β) :
    (if cs.isEmpty then some (0, []) >>= next else readPlaces 2 cs >>= next) =
      readFurther cs >>= next := by
  rw [readFurther]
  split <;> rfl

theorem readOffset_signed {sign : Char} {cs rest rest' : List Char} {hours minutes seconds : Nat}
    (signed : sign = '+' ∨ sign = '-')
    (hour : readPlaces 2 (cs.filter (· != ':')) = some (hours, rest))
    (minute : readFurther rest = some (minutes, rest'))
    (second : readFurther rest' = some (seconds, []))
    (short : 3600 * hours + 60 * minutes + seconds < 86400) :
    readOffset (sign :: cs) = some (some (if sign = '-'
      then -((3600 * hours + 60 * minutes + seconds : Nat) : Int)
      else (3600 * hours + 60 * minutes + seconds : Nat))) := by
  have noLetter : sign = 'Z' → cs = [] → False := by
    rintro rfl
    simp at signed
  have mark : (decide (sign = '+') || decide (sign = '-')) = true := by simpa using signed
  have least : ((3600 * hours + 60 * minutes + seconds : Nat) : Int) < 86400 := by omega
  rw [readOffset.eq_3 _ _ noLetter]
  refine Option.bind_eq_some_iff.mpr ⟨(), if_pos mark, ?_⟩
  refine Option.bind_eq_some_iff.mpr ⟨_, hour, ?_⟩
  dsimp only
  rw [readFurther_bind]
  refine Option.bind_eq_some_iff.mpr ⟨_, minute, ?_⟩
  dsimp only
  rw [readFurther_bind]
  refine Option.bind_eq_some_iff.mpr ⟨_, second, ?_⟩
  refine Option.bind_eq_some_iff.mpr ⟨(), rfl, ?_⟩
  exact Option.bind_eq_some_iff.mpr ⟨(), if_pos least, rfl⟩

/-- The colons between hours, minutes and seconds are skipped, and the seconds are zero if they are
not there. -/
theorem readOffset_parts {sign : Char} {hours minutes seconds : Nat}
    (signed : sign = '+' ∨ sign = '-') (fits : hours < 100) (fits' : minutes < 100)
    (fits'' : seconds < 100) (short : 3600 * hours + 60 * minutes + seconds < 86400) :
    readOffset (sign :: (paddedDigits 2 hours ++ ':' :: (paddedDigits 2 minutes ++
      if seconds = 0 then [] else ':' :: paddedDigits 2 seconds))) = some (some (if sign = '-'
        then -((3600 * hours + 60 * minutes + seconds : Nat) : Int)
        else (3600 * hours + 60 * minutes + seconds : Nat))) := by
  have first (rest : List Char) : readPlaces 2 ((paddedDigits 2 hours ++ ':' ::
      (paddedDigits 2 minutes ++ rest)).filter (· != ':')) =
        some (hours, paddedDigits 2 minutes ++ rest.filter (· != ':')) := by
    rw [filter_two fits, List.filter_cons_of_neg (by decide), filter_two fits',
      readPlaces_two fits]
  refine readOffset_signed signed (first _) (readFurther_two fits' _) ?_ short
  by_cases zero : seconds = 0
  · rw [if_pos zero, zero]
    rfl
  · rw [if_neg zero, List.filter_cons_of_neg (by decide),
      ← List.append_nil (paddedDigits 2 seconds), filter_two fits'', List.filter_nil,
      readFurther_two fits'']

theorem readOffset_text (short : IsShort offset) :
    readOffset (offsetText offset) = some (some offset) := by
  rw [IsShort] at short
  have total : 3600 * (offset.natAbs / 3600) + 60 * (offset.natAbs / 60 % 60) +
      offset.natAbs % 60 = offset.natAbs := by omega
  have text : offsetText offset = (if offset < 0 then '-' else '+') ::
      (paddedDigits 2 (offset.natAbs / 3600) ++ ':' :: (paddedDigits 2 (offset.natAbs / 60 % 60) ++
        if offset.natAbs % 60 = 0 then [] else ':' :: paddedDigits 2 (offset.natAbs % 60))) := by
    simp only [offsetText, List.cons_append, List.append_assoc]
  have signed : (if offset < 0 then '-' else '+') = '+' ∨
      (if offset < 0 then '-' else '+') = '-' := by
    split <;> simp
  rw [text, readOffset_parts signed (by omega) (by omega) (by omega) (by omega), total]
  by_cases negative : offset < 0
  · rw [if_pos negative, if_pos rfl]
    congr 2
    omega
  · rw [if_neg negative, if_neg (by decide)]
    congr 2
    omega

theorem endsClock_offset {offset : Option Int} : EndsClock ((offset.map offsetText).getD []) := by
  cases offset with
  | none => exact nofun
  | some seconds =>
    intro c first
    obtain rfl : (if seconds < 0 then '-' else '+') = c := Option.some.inj first
    split <;> decide +kernel

theorem readClock_text {c : Clock} (valid : c.IsValid) {offset : Option Int}
    (short : ∀ seconds ∈ offset, IsShort seconds) :
    readClock (clockText c ++ (offset.map offsetText).getD []) = some (c, offset) := by
  obtain ⟨hour, minute, second, micro⟩ := valid
  have zone : readOffset ((offset.map offsetText).getD []) = some offset := by
    cases offset with
    | none => rfl
    | some seconds => exact readOffset_text (short seconds rfl)
  simp only [readClock, clockText, List.append_assoc, List.cons_append,
    readPlaces_two (show c.hour < 100 by omega), readPart_two (show c.minute < 100 by omega),
    readPart_two (show c.second < 100 by omega), readFraction_text micro endsClock_offset, zone,
    Option.bind_eq_bind, Option.bind_some]
  rfl

/-- Every moment of the calendar is read back from its ISO text. -/
theorem Moment.ofIso?_iso {wall : Int} {offset : Option Int} (inside : InCalendar wall)
    (short : ∀ seconds ∈ offset, IsShort seconds) :
    Moment.ofIso? (Moment.iso ⟨wall, offset⟩) = some ⟨wall, offset⟩ := by
  have valid := dateOfWall_isValid inside
  obtain ⟨first, last, january, december, positive, days⟩ := valid
  have length := daysInMonth_le (dateOfWall wall).year january december
  rw [firstYear] at first
  rw [lastYear] at last
  have whole : wallOf? (dateOfWall wall) (clockOfWall wall) = some wall := by
    rw [wallOf?, if_pos ⟨dateOfWall_isValid inside, clockOfWall_isValid wall⟩, wallOf_wall]
  have year : ((dateOfWall wall).year.toNat : Int) = (dateOfWall wall).year := by omega
  have text : (Moment.iso ⟨wall, offset⟩).toList = paddedDigits 4 (dateOfWall wall).year.toNat ++
      '-' :: (paddedDigits 2 (dateOfWall wall).month ++ '-' ::
        (paddedDigits 2 (dateOfWall wall).day ++ 'T' ::
          (clockText (clockOfWall wall) ++ (offset.map offsetText).getD []))) := by
    simp only [Moment.iso, Moment.text, dateText, String.toList_ofList, List.append_assoc,
      List.cons_append]
  have dash : ∀ cs, readMark ['-'] ('-' :: cs) = some cs := fun _ => rfl
  have letter : ∀ cs, readMark ['T', ' '] ('T' :: cs) = some cs := fun _ => rfl
  rw [Moment.ofIso?, text]
  simp only [readPlaces_four (show (dateOfWall wall).year.toNat < 10000 by omega),
    readPlaces_two (show (dateOfWall wall).month < 100 by omega),
    readPlaces_two (show (dateOfWall wall).day < 100 by omega), dash, letter,
    readClock_text (clockOfWall_isValid wall) short, year, whole, Option.bind_eq_bind,
    Option.bind_some, List.isEmpty_cons, Bool.false_eq_true, if_false]
  rfl

end PortableSearch.Calendar
