import Mathlib.Data.List.TakeDrop
import PortableSearch.Calendar.Written
import PortableSearch.Proofs.Calendar.IsoText
import PortableSearch.Proofs.Calendar.MonthShift
import PortableSearch.Proofs.DateMath.UnitEnd

/-! Reading the ISO text of a moment as a written date gives the moment. The year, which has four
digits, comes first and takes month and day with it; the hour takes minutes and seconds, and the
sign the offset. -/
namespace PortableSearch.Calendar

/-! Dates and times of day of the calendar -/

section Wall
variable {wall : Int}

theorem dateOfWall_isValid (inside : InCalendar wall) : (dateOfWall wall).IsValid := by
  obtain ⟨length, positive, last, -⟩ := dateOfWall_spec wall
  obtain ⟨first, december, -⟩ := ofDayNumber_spec (dayOfWall wall)
  obtain ⟨start, stop⟩ := (inCalendar_iff wall).mp inside
  rw [← dateOfWall] at first december
  rw [Date.monthIndex] at start stop
  simp only [Date.IsValid, length, firstYear, lastYear]
  omega

theorem clockOfWall_isValid (wall : Int) : (clockOfWall wall).IsValid := by
  obtain ⟨start, stop⟩ := timeOfWall_bounds wall
  simp only [clockOfWall, Clock.ofMicros, Clock.IsValid, microsPerDay, microsPerSecond] at *
  omega

theorem wallOf_wall (wall : Int) : wallOf (dateOfWall wall) (clockOfWall wall) = wall := by
  have day : (dateOfWall wall).dayNumber = dayOfWall wall := dayNumber_ofDayNumber _
  have time : (clockOfWall wall).micros = timeOfWall wall := by
    obtain ⟨start, stop⟩ := timeOfWall_bounds wall
    simp only [clockOfWall, Clock.ofMicros, Clock.micros, microsPerSecond] at *
    omega
  rw [wallOf, day, time, dayOfWall, timeOfWall, Int.ediv_mul_add_emod]

end Wall

namespace Written
variable {run : Token} {n : Nat}

theorem span_numeral {width : Nat} (numeral : IsNumeral width n run) {rest : List Char}
    (point : ∀ c ∈ rest.head?, c = '.') : (run ++ rest).span (· != '.') = (run, rest) := by
  have plain : ∀ c ∈ run, (c != '.') = true := fun c inside => by
    simpa using (ne_mark (numeral.ascii c inside)).1
  rw [List.span_eq_takeWhile_dropWhile, List.takeWhile_append_of_pos plain,
    List.dropWhile_append_of_pos plain]
  cases rest with
  | nil => simp
  | cons c rest =>
    obtain rfl := point c rfl
    simp

theorem span_whole {width : Nat} (numeral : IsNumeral width n run) :
    run.span (· != '.') = (run, []) := by
  have nothing : ∀ c ∈ ([] : List Char).head?, c = '.' := nofun
  simpa using span_numeral numeral nothing

theorem numeral_read? {width : Nat} (numeral : IsNumeral (width + 1) n run) :
    Numeral.read? run = some ⟨n, 0, 0⟩ := by
  rw [Numeral.read?, span_whole numeral]
  simp [numeral.readRun?]

/-- No number of two digits is a filler or the name of a month. -/
theorem numeral_word (numeral : IsNumeral 2 n run) :
    isFiller run = false ∧ monthNamed? run = none := by
  have each : ∀ a b : Fin 10, isFiller [(a : Nat).digitChar, (b : Nat).digitChar] = false ∧
      monthNamed? [(a : Nat).digitChar, (b : Nat).digitChar] = none := by decide +kernel
  obtain ⟨c, d, rfl⟩ := List.length_eq_two.mp numeral.length
  obtain ⟨a, rfl⟩ := asciiDigit_cases (numeral.ascii c (by simp))
  obtain ⟨b, rfl⟩ := asciiDigit_cases (numeral.ascii d (by simp))
  exact each a b

theorem liftM_some {α : Type} (a : α) : (liftM (some a) : Except Fault α) = .ok a := rfl

theorem addDigits_numeral {width : Nat} (numeral : IsNumeral (width + 1) n run)
    (short : width < Text.longestNumeral) (p : Parts) (label : Option Label) :
    p.addDigits run label = p.add n (2 < width + 1) label := by
  rw [Parts.addDigits, numeral.readNat? short, numeral.length, numeral.all_isDigit, Bool.and_true]
  rfl

theorem readSeconds?_seconds {second micro : Nat} (seconds : IsSeconds second micro run) :
    readSeconds? run = some (second, micro) := by
  cases seconds with
  | whole numeral =>
    rw [readSeconds?, span_whole numeral]
    simp [numeral.readNat? (by decide)]
  | @fraction _ _ fraction numeral numeral' =>
    have whole : (fraction ++ List.replicate 6 '0').take 6 = fraction := by
      rw [← numeral'.length, List.take_left']
      rfl
    have noPoint : fraction.contains '.' = false := by
      simpa using fun inside => (ne_mark (numeral'.ascii _ inside)).1 rfl
    have point : ∀ c ∈ ('.' :: fraction).head?, c = '.' := fun c first =>
      (Option.some.inj first).symm
    rw [readSeconds?, span_numeral numeral point]
    simp only [noPoint, whole, numeral.readNat? (by decide), numeral'.readNat? (by decide)]
    rfl

namespace Draft

theorem readNumber_date {year month day : Nat} {first second third : Token}
    (first' : IsNumeral 4 year first) (second' : IsNumeral 2 month second)
    (third' : IsNumeral 2 day third) (rest : List Token) :
    readNumber [] first (['-'] :: second :: ['-'] :: third :: rest) {} =
      .ok ({ parts := ⟨[year, month, day], some 0, none, true⟩ }, 4) := by
  have noUnit : unitAround [] (['-'] :: second :: ['-'] :: third :: rest) = none := rfl
  have one : ({} : Parts).addDigits first none = some ⟨[year], some 0, none, true⟩ :=
    addDigits_numeral first' (by decide) _ _
  have two : Parts.addDigits ⟨[year], some 0, none, true⟩ second none =
      some ⟨[year, month], some 0, none, true⟩ := addDigits_numeral second' (by decide) _ _
  have three : Parts.addNamed ⟨[year, month], some 0, none, true⟩ third =
      some ⟨[year, month, day], some 0, none, true⟩ := by
    rw [Parts.addNamed, (numeral_word third').2]
    exact addDigits_numeral third' (by decide) _ _
  rw [readNumber, numeral_read? first']
  simp [first'.length, noUnit, is, bind, Except.bind, pure, Except.pure, one, two, three,
    liftM_some, second'.all_isDigit, (numeral_word second').1]

theorem readNumber_clock {hour minute sec micro : Nat} {first second third : Token}
    (first' : IsNumeral 2 hour first) (second' : IsNumeral 2 minute second)
    (third' : IsSeconds sec micro third) (small : minute < 60) (parts : Parts)
    (before rest : List Token) :
    readNumber (['T'] :: before) first ([':'] :: second :: [':'] :: third :: rest)
        { parts := parts } =
      .ok ({ parts := parts, hour := some hour, minute := some minute, second := some sec,
             micro := some micro }, 4) := by
  have noUnit : unitAround (['T'] :: before) ([':'] :: second :: [':'] :: third :: rest) = none :=
    rfl
  have splits : Numeral.splits ⟨minute, 0, 0⟩ = true := by
    apply decide_eq_true
    exact Nat.lt_of_lt_of_le small (by decide)
  rw [readNumber, numeral_read? first']
  simp [first'.length, noUnit, is, bind, Except.bind, pure, Except.pure, liftM_some,
    numeral_read? second', withMinutes, splits, withSeconds, readSeconds?_seconds third']

theorem readOffset_minutes {hours minutes : Nat} {first second : Token}
    (first' : IsNumeral 2 hours first) (second' : IsNumeral 2 minutes second) (negative : Bool)
    (d : Draft) : readOffset negative [first, [':'], second] d =
      some ({ d with
        zoneOffset := some (if negative then -(3600 * hours + 60 * minutes : Nat)
          else (3600 * hours + 60 * minutes : Nat)) }, 3) := by
  simp [readOffset, first'.length, is, first'.readNat? (by decide), second'.readNat? (by decide)]

theorem readTokens_step {before after : List Token} {t : Token} {d next : Draft} {taken : Nat}
    (read : d.readToken before t after = .ok (next, after, taken)) :
    readTokens before (t :: after) d =
      readTokens ((after.take taken).reverse ++ t :: before) (after.drop taken) next := by
  rw [readTokens, read]
  simp

theorem readToken_letter (before after : List Token) (parts : Parts) :
    readToken before ['T'] after { parts := parts } = .ok ({ parts := parts }, after, 0) := by
  rfl

theorem readToken_number {width n taken : Nat} {before after : List Token} {t : Token}
    {d next : Draft} (numeral : IsNumeral (width + 1) n t)
    (read : d.readNumber before t after = .ok (next, taken)) :
    readToken before t after d = .ok (next, after, taken) := by
  rw [readToken, numeral_read? numeral, read]
  rfl

theorem readToken_sign {sign : Char} (signed : sign = '+' ∨ sign = '-')
    {before after : List Token} {d next : Draft} {hour taken : Nat} (clock : d.hour = some hour)
    (read : d.readOffset (is [sign] '-') after = some (next, taken)) :
    readToken before [sign] after d = .ok (next, after, taken) := by
  have noName : d.admitsZoneName d.zoneOffset [sign] = false := by
    rcases signed with rfl | rfl <;> simp [admitsZoneName, utcWords]
  have noWord : (Numeral.read? [sign]).isSome = false ∧ isNumberWord [sign] = false ∧
      weekdayNamed? [sign] = none ∧ monthNamed? [sign] = none ∧ afternoonNamed? [sign] = none := by
    rcases signed with rfl | rfl <;> decide +kernel
  have isSign : (is [sign] '+' || is [sign] '-') = true := by
    rcases signed with rfl | rfl <;> rfl
  obtain ⟨noNumeral, noNumber, noWeekday, noMonth, noHalf⟩ := noWord
  rw [readToken]
  simp [noNumeral, noNumber, noWeekday, noMonth, noHalf, noName, clock, isSign, read, liftM_some,
    bind, Except.bind, pure, Except.pure]

variable {p : IsoParts} {date : Date} {clock : Clock} {offset : Int}

/-- What is known of an ISO text before its offset is read. -/
def ofIso (d : Date) (c : Clock) : Draft where
  parts := ⟨[d.year.toNat, d.month, d.day], some 0, none, true⟩
  hour := some c.hour
  minute := some c.minute
  second := some c.second
  micro := some c.micro

/-- Sign, hours and minutes of an offset in whole minutes give the offset. -/
theorem offset_parts (whole : offset % 60 = 0) :
    let seconds := 3600 * (offset.natAbs / 3600) + 60 * (offset.natAbs / 60 % 60)
    (if is [if offset < 0 then '-' else '+'] '-' then -(seconds : Int) else seconds) = offset := by
  intro seconds
  by_cases negative : offset < 0
  · rw [if_pos negative]
    refine (if_pos rfl).trans ?_
    omega
  · rw [if_neg negative]
    refine (if_neg (by decide)).trans ?_
    omega

theorem readTokens_iso (means : p.Means date clock offset) (valid : clock.IsValid) :
    readTokens [] p.tokens {} = .ok { ofIso date clock with zoneOffset := some offset } := by
  obtain ⟨-, small, -⟩ := valid
  have signed : p.sign = '+' ∨ p.sign = '-' := by
    rw [means.sign]
    split <;> simp
  have ahead := readOffset_minutes means.hours means.minutes (is [p.sign] '-') (ofIso date clock)
  rw [means.sign, offset_parts means.whole, ← means.sign] at ahead
  rw [IsoParts.tokens, readTokens_step (readToken_number means.year
    (readNumber_date means.year means.month means.day _))]
  simp only [List.drop_succ_cons, List.drop_zero]
  rw [readTokens_step (readToken_letter _ _ _)]
  simp only [List.drop_zero, List.take_zero, List.reverse_nil, List.nil_append]
  rw [readTokens_step (readToken_number means.hour
    (readNumber_clock means.hour means.minute means.second small _ _ _))]
  simp only [List.drop_succ_cons, List.drop_zero]
  refine (readTokens_step (d := ofIso date clock) (readToken_sign signed rfl ahead)).trans ?_
  rw [List.drop_succ_cons, List.drop_succ_cons, List.drop_succ_cons, List.drop_zero, readTokens]

theorem finish_iso (valid : date.IsValid) (valid' : clock.IsValid)
    (inside : InCalendar (wallOf date clock)) (short : IsShort offset) :
    finish { ofIso date clock with zoneOffset := some offset } =
      some ⟨wallOf date clock, some offset⟩ := by
  have year : ((date.year.toNat : Nat) : Int) = date.year := by
    obtain ⟨first, -⟩ := valid
    rw [firstYear] at first
    omega
  have span : isSpan offset = true := by
    rw [IsShort] at short
    simp only [isSpan, Bool.and_eq_true, decide_eq_true_eq]
    omega
  have wall : wallOf? date clock = some (wallOf date clock) := if_pos ⟨valid, valid'⟩
  simp [finish, ofIso, Parts.assign, isDate, fullYear, year, wall, Draft.offset, span,
    inside.checked]
  rfl

end Draft

theorem read_iso {p : IsoParts} {d : Date} {c : Clock} {offset : Int} (means : p.Means d c offset)
    (valid : d.IsValid) (valid' : c.IsValid) (inside : InCalendar (wallOf d c))
    (short : IsShort offset) : read p.text = .ok ⟨wallOf d c, some offset⟩ := by
  rw [read, means.tokens_text, Draft.readTokens_iso means valid']
  show (liftM (Draft.finish _) : Except Fault Moment) = _
  rw [Draft.finish_iso valid valid' inside short]
  rfl

end Written

theorem secondText_isSeconds {second micro : Nat} (fits : second < 60) (fits' : micro < 1000000) :
    Written.IsSeconds second micro (paddedDigits 2 second ++ fractionText micro) := by
  have seconds : IsNumeral 2 second (paddedDigits 2 second) :=
    paddedDigits_isNumeral (by decide) (by omega)
  rw [fractionText]
  split
  · rename_i none
    rw [List.append_nil, none]
    exact .whole seconds
  · exact .fraction seconds (paddedDigits_isNumeral (by decide) fits')

/-- The text of a moment has the parts of its date, time of day and offset. -/
theorem Moment.text_parts {wall offset : Int} (inside : InCalendar wall) (short : IsShort offset)
    (whole : offset % 60 = 0) : ∃ p : Written.IsoParts,
      Moment.text 'T' ⟨wall, some offset⟩ = p.text ∧
        p.Means (dateOfWall wall) (clockOfWall wall) offset := by
  obtain ⟨first, last, january, december, positive, days⟩ := dateOfWall_isValid inside
  obtain ⟨hour, minute, second, micro⟩ := clockOfWall_isValid wall
  have length := daysInMonth_le (dateOfWall wall).year january december
  rw [IsShort] at short
  rw [lastYear] at last
  let d := dateOfWall wall
  let c := clockOfWall wall
  refine ⟨⟨paddedDigits 4 d.year.toNat, paddedDigits 2 d.month, paddedDigits 2 d.day,
    paddedDigits 2 c.hour, paddedDigits 2 c.minute, paddedDigits 2 c.second ++ fractionText c.micro,
    if offset < 0 then '-' else '+', paddedDigits 2 (offset.natAbs / 3600),
    paddedDigits 2 (offset.natAbs / 60 % 60)⟩, ?_, ?_⟩
  · have minutes : offset.natAbs % 60 = 0 := by omega
    simp [Moment.text, dateText, clockText, offsetText, Written.IsoParts.text, minutes, d, c]
  · exact {
      year := paddedDigits_isNumeral (by decide) (by omega)
      month := paddedDigits_isNumeral (by decide) (by omega)
      day := paddedDigits_isNumeral (by decide) (by omega)
      hour := paddedDigits_isNumeral (by decide) (by omega)
      minute := paddedDigits_isNumeral (by decide) (by omega)
      second := secondText_isSeconds second micro
      sign := rfl
      hours := paddedDigits_isNumeral (by decide) (by omega)
      minutes := paddedDigits_isNumeral (by decide) (by omega)
      whole := whole }

/-- A moment with an offset in whole minutes is read back from its ISO text. -/
theorem Moment.read_text {wall offset : Int} (inside : InCalendar wall) (short : IsShort offset)
    (whole : offset % 60 = 0) :
    Written.read (Moment.text 'T' ⟨wall, some offset⟩) = .ok ⟨wall, some offset⟩ := by
  obtain ⟨p, text, means⟩ := Moment.text_parts inside short whole
  have read := Written.read_iso means (dateOfWall_isValid inside) (clockOfWall_isValid wall)
    (by rwa [wallOf_wall]) short
  rwa [wallOf_wall, ← text] at read

end PortableSearch.Calendar
