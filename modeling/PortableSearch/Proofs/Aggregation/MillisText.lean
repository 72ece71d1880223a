import PortableSearch.Proofs.Aggregation.DateBounds

/-! Bounds of date ranges that are written as milliseconds since 1970. A text of nine or more digits
counts milliseconds; the clock of the zone is set by that count and read again, so that it has the
value that it writes wherever the clock shows it. What a bound is resolved to is resolved to itself,
as a number and as such a text. -/
namespace PortableSearch

namespace Calendar.DateMath
variable {zone : Zone} {now : Moment} {text : String} {n : Nat} {offset : Int}

/-- A text of at least nine ASCII digits, zeros in front included, that writes a number. -/
structure WritesMillis (n : Nat) (text : String) : Prop where
  numeral : IsNumeral text.toList.length n text.toList
  long : leastMillisDigits ≤ text.toList.length

theorem WritesMillis.readAnchor (writes : WritesMillis n text) : readAnchor zone text.toList =
    if Text.longestNumeral < text.toList.length then .error .unreadableNumber
    else (anchorAt zone ⟨n * 1000, none⟩).mapError .calendar := by
  obtain ⟨numeral, long⟩ := writes
  have present : text.toList ≠ [] :=
    List.ne_nil_of_length_pos (Nat.lt_of_lt_of_le (by decide) long)
  rw [DateMath.readAnchor, numeral.all_isDigit, decide_eq_true long, Bool.and_true, if_pos rfl]
  by_cases far : Text.longestNumeral < text.toList.length
  · have unreadable : Text.readNat? text.toList = none := if_pos far
    rw [unreadable, if_pos far]
  · rw [Text.readNat?_ascii present (Nat.le_of_not_lt far) numeral.ascii, numeral.value,
      if_neg far]

/-- Such a text has the value of the instant that the clock means where it is set by the count. -/
theorem WritesMillis.evaluate (writes : WritesMillis n text) (roundUp : Bool) :
    evaluate zone now roundUp text =
      if Text.longestNumeral < text.toList.length then .error .unreadableNumber
      else ((zone.readBack (n * 1000)).map (· / 1000)).mapError .calendar := by
  have chars : ∀ c ∈ text.toList, IsIsoChar c := writes.numeral.chars
  have visible : ∀ c ∈ text.toList, Text.isBlank c = false := fun c inside =>
    (chars c inside).visible.2.1
  have noBar : '|' ∉ text.toList := fun inside => (chars _ inside).visible.2.2 rfl
  -- The whole text is the date, as neither a blank nor the mark before operations is a digit.
  have anchor : DateMath.readAnchor zone text.toList = _ := writes.readAnchor
  cases begins : text.toList with
  | nil => exact absurd writes.long (by rw [begins]; decide)
  | cons c cs =>
    have digit : c.isDigit = true :=
      writes.numeral.ascii c (by rw [begins]; exact List.mem_cons_self)
    rw [begins] at visible noBar anchor
    rw [← String.ofList_toList (s := text), begins, evaluate_date digit visible noBar, anchor,
      Zone.readBack]
    split
    · rfl
    · show ((checkWall (n * 1000 - 0) >>= fun _ => _).mapError _ >>= _) = _
      rw [Int.sub_zero]
      cases checkWall (n * 1000 : Int) with
      | error fault => rfl
      | ok utc =>
        show (((zone.ofUtc utc) >>= fun _ => _).mapError _ >>= _) =
          ((zone.ofUtc utc >>= zone.instantOf).map _).mapError _
        cases zone.ofUtc utc <;> rfl

/-- It has the value that it writes where the clock shows that instant. -/
theorem WritesMillis.value (writes : WritesMillis n text)
    (short : text.toList.length ≤ Text.longestNumeral) (shows : zone.Shows (n * 1000))
    (roundUp : Bool) : DateMath.evaluate zone now roundUp text = .ok n := by
  have whole : (n * 1000 : Int) / 1000 = n := Int.mul_ediv_cancel _ (by decide)
  rw [writes.evaluate, if_neg (Nat.not_lt.mpr short), shows.readBack]
  show Except.ok ((n * 1000 : Int) / 1000) = _
  rw [whole]

/-- On a clock of one offset it has no other value, and none elsewhere. -/
theorem WritesMillis.value_iff (writes : WritesMillis n text) (ahead : zone.IsAhead offset)
    (roundUp : Bool) (value : Int) : DateMath.evaluate zone now roundUp text = .ok value ↔
      value = n ∧ text.toList.length ≤ Text.longestNumeral ∧ zone.HasOffset offset ∧
        InCalendar (n * 1000) ∧ InCalendar (n * 1000 + offset * microsPerSecond) := by
  rw [← Zone.shows_iff ahead]
  constructor
  · intro found
    have read := found
    rw [writes.evaluate] at read
    split at read
    · cases read
    · rename_i short
      rw [mapError_ok, map_ok] at read
      obtain ⟨instant, meant, -⟩ := read
      have shows := (Zone.readBack_iff ahead).mp ⟨instant, meant⟩
      rw [writes.value (Nat.le_of_not_lt short) shows] at found
      cases found
      exact ⟨rfl, Nat.le_of_not_lt short, shows⟩
  · rintro ⟨rfl, short, shows⟩
    exact writes.value short shows roundUp

end Calendar.DateMath

namespace Aggregation
open Calendar
variable {zone : Zone} {now : Moment}

/-- A bound that has been resolved is left as it is, at whichever moment. -/
theorem resolveBound_again {v resolved : Value} (made : resolveBound zone now v = .ok resolved)
    (later : Moment) : resolveBound zone later resolved = .ok resolved := by
  cases v with
  | str s =>
    rw [resolveBound] at made
    split at made <;> cases made
    rfl
  | _ =>
    cases made
    rfl

/-- A resolved bound is kept, or written as the text of its milliseconds. -/
inductive WrittenBack (zone : Zone) : Option Value → Option Value → Prop where
  | kept {v : Option Value} : WrittenBack zone v v
  | text {n : Nat} {text : String} : DateMath.WritesMillis n text →
    text.toList.length ≤ Text.longestNumeral → zone.Shows (n * 1000) →
    WrittenBack zone (some (.int n)) (some (.str text))

structure SpanWrittenBack (zone : Zone) (resolved written : Span) : Prop where
  key : resolved.key = written.key
  start : WrittenBack zone resolved.start written.start
  stop : WrittenBack zone resolved.stop written.stop

theorem WrittenBack.resolve {v resolved written : Option Value}
    (made : resolveBound? zone now v = .ok resolved) (back : WrittenBack zone resolved written)
    (later : Moment) : resolveBound? zone later written = .ok resolved := by
  cases back with
  | kept =>
    cases v with
    | none =>
      cases made
      rfl
    | some v =>
      obtain ⟨bound, own, rfl⟩ := map_ok.mp made
      exact map_ok.mpr ⟨bound, resolveBound_again own later, rfl⟩
  | text writes short shows =>
    rw [resolveBound?, resolveBound, writes.value short shows]
    rfl

theorem SpanWrittenBack.resolve {s resolved written : Span}
    (made : s.resolve zone now = .ok resolved) (back : SpanWrittenBack zone resolved written)
    (later : Moment) : written.resolve zone later = .ok resolved := by
  obtain ⟨start, first, rest⟩ := bind_ok.mp made
  obtain ⟨stop, last, whole⟩ := bind_ok.mp rest
  cases whole
  have again : resolveBound? zone later written.start = .ok start := back.start.resolve first later
  have again' : resolveBound? zone later written.stop = .ok stop := back.stop.resolve last later
  rw [Span.resolve, again, again', ← back.key]
  rfl

/-- On a clock of one offset a text of milliseconds is read as the number that it writes, whatever
the moment and the direction of rounding, or not at all: it is exactly if it has no more digits than
are read as one number, the offset is less than a day and the calendar has the instant in UTC and on
that clock. Resolved bounds, some of them written back as such texts, are resolved to themselves at
every moment, so that the aggregation is compiled as before. -/
theorem entry_written_back {setting : Setting} {own : Option String} {offset : Int}
    (known : Zone.named (Context.zoneFor own setting.timeZone) = .ok zone)
    (ahead : zone.IsAhead offset) :
    (∀ n text, DateMath.WritesMillis n text → ∀ now roundUp value,
      DateMath.evaluate zone now roundUp text = .ok value ↔
        value = n ∧ text.toList.length ≤ Text.longestNumeral ∧ zone.HasOffset offset ∧
          InCalendar (n * 1000) ∧ InCalendar (n * 1000 + offset * microsPerSecond)) ∧
    ∀ spans resolved written, spans.mapM (Span.resolve zone setting.anchor) = .ok resolved →
      List.Forall₂ (SpanWrittenBack zone) resolved written →
      (∀ now, written.mapM (Span.resolve zone now) = .ok resolved) ∧
      ∀ key field format count children,
        entry setting (.mk key (.dateRanges field written format own) count children) =
          entry setting (.mk key (.dateRanges field spans format own) count children) := by
  refine ⟨fun n text writes now roundUp value => writes.value_iff ahead roundUp value, ?_⟩
  intro spans resolved written made back
  have again : ∀ now, written.mapM (Span.resolve zone now) = .ok resolved := by
    intro now
    have each := mapM_ok_iff.mp made
    rw [mapM_ok_iff]
    clear made
    induction back generalizing spans with
    | nil => exact .nil
    | cons first _ ih =>
      obtain ⟨s, _, own, rest, -⟩ := List.forall₂_cons_right_iff.mp each
      exact .cons (first.resolve own now) (ih _ rest)
  refine ⟨again, fun key field format count children => ?_⟩
  rw [entry, entry, compile_dateRanges key field written format known,
    compile_dateRanges key field spans format known, made, again]

/-- The beginning of a day and a moment of it, written back with and without zeros in front. -/
theorem day_written_back :
    let setting : Setting := ⟨some "+05:30", ⟨1416306600000000, some 0⟩⟩
    let zone : Zone := .fixed 19800
    let spans : List Span :=
      [⟨none, some (.str ("now" ++ "/d")), some (.moment ⟨1416306600000999, none⟩)⟩]
    let resolved : List Span := [⟨none, some (.int 1416249000000), some (.int 1416306600000)⟩]
    let written : List Span :=
      [⟨none, some (.str "0001416249000000"), some (.str "1416306600000")⟩]
    Zone.named (Context.zoneFor none setting.timeZone) = .ok zone ∧ zone.IsAhead 19800 ∧
    spans.mapM (Span.resolve zone setting.anchor) = .ok resolved ∧
    List.Forall₂ (SpanWrittenBack zone) resolved written ∧
    DateMath.evaluate zone ⟨0, none⟩ true "0001416249000000" = .ok 1416249000000 ∧
    entry setting (.mk "k" (.dateRanges "t" written none none) none []) =
      entry setting (.mk "k" (.dateRanges "t" spans none none) none []) := by
  intro setting zone spans resolved written
  have known : Zone.named (Context.zoneFor none setting.timeZone) = .ok zone := by decide +kernel
  have writes : DateMath.WritesMillis 1416249000000 "0001416249000000" :=
    ⟨⟨rfl, List.all_eq_true.mp (by decide), by decide⟩, by decide⟩
  have writes' : DateMath.WritesMillis 1416306600000 "1416306600000" :=
    ⟨⟨rfl, List.all_eq_true.mp (by decide), by decide⟩, by decide⟩
  have has : zone.HasOffset 19800 := .fixed (by decide)
  have shows {n : Nat} (inside : InCalendar (n * 1000))
      (inside' : InCalendar (n * 1000 + 19800 * microsPerSecond)) : zone.Shows (n * 1000) :=
    (Zone.shows_iff .fixed).mpr ⟨has, inside, inside'⟩
  have day : DateMath.evaluate zone setting.anchor false ("now" ++ "/d") = .ok 1416249000000 := by
    have operation : DateMath.Writes (DateMath.trimRight "/d".toList) [.round .day] :=
      .cons rfl .nil
    rw [DateMath.evaluate_now operation]
    decide +kernel
  have made : spans.mapM (Span.resolve zone setting.anchor) = .ok resolved := by
    rw [mapM_ok_iff]
    refine .cons ?_ .nil
    rw [Span.resolve, resolveBound?, resolveBound, day]
    rfl
  have back : List.Forall₂ (SpanWrittenBack zone) resolved written :=
    .cons ⟨rfl, .text writes (by decide) (shows (by decide) (by decide)),
      .text writes' (by decide) (shows (by decide) (by decide))⟩ .nil
  obtain ⟨read, again⟩ := entry_written_back known .fixed
  exact ⟨known, .fixed, made, back,
    (read _ _ writes _ _ _).mpr ⟨rfl, by decide, has, by decide, by decide⟩,
    (again _ _ _ made back).2 _ _ _ _ _⟩

/-- A text of milliseconds is not read on a clock more than a day ahead, nor in the first hours of
the year after the last in UTC, although the clock of the zone is in the last year still, nor with
more zeros in front than are read as one number. -/
theorem millis_not_read :
    let now : Moment := ⟨1416306600000000, some 0⟩
    let padded := String.ofList (List.replicate 4292 '0' ++ "123456789".toList)
    Zone.named (some "+25:00") = .ok (.fixed 90000) ∧
    Zone.named (some "-05:00") = .ok (.fixed (-18000)) ∧
    DateMath.WritesMillis 1416306615000 "1416306615000" ∧
    InCalendar (1416306615000 * 1000 + 90000 * microsPerSecond) ∧
    DateMath.evaluate (.fixed 90000) now false "1416306615000" =
      .error (.calendar .offsetTooLarge) ∧
    DateMath.WritesMillis 253402300800000 "253402300800000" ∧
    InCalendar (253402300800000 * 1000 + -18000 * microsPerSecond) ∧
    DateMath.evaluate (.fixed (-18000)) now false "253402300800000" =
      .error (.calendar .beyondCalendar) ∧
    DateMath.WritesMillis 123456789 padded ∧
    DateMath.evaluate .utc now false padded = .error .unreadableNumber := by
  intro now padded
  have writes : DateMath.WritesMillis 1416306615000 "1416306615000" :=
    ⟨⟨rfl, List.all_eq_true.mp (by decide), by decide⟩, by decide⟩
  have writes' : DateMath.WritesMillis 253402300800000 "253402300800000" :=
    ⟨⟨rfl, List.all_eq_true.mp (by decide), by decide⟩, by decide⟩
  have text : padded.toList = List.replicate 4292 '0' ++ "123456789".toList := String.toList_ofList
  have length : padded.toList.length = 4301 := by
    rw [text, List.length_append, List.length_replicate]
    rfl
  have writes'' : DateMath.WritesMillis 123456789 padded := by
    refine ⟨⟨rfl, ?_, ?_⟩, by rw [length]; decide⟩
    · rw [text]
      intro c inside
      rcases List.mem_append.mp inside with zero | digit
      · rw [List.eq_of_mem_replicate zero]
        rfl
      · exact List.all_eq_true.mp (by decide) c digit
    · rw [text, Nat.ofDigitChars_append, ofDigitChars_zeros]
      rfl
  refine ⟨by decide +kernel, by decide +kernel, writes, by decide, ?_, writes', by decide, ?_,
    writes'', ?_⟩
  · rw [writes.evaluate]
    decide +kernel
  · rw [writes'.evaluate]
    decide +kernel
  · rw [writes''.evaluate, length]
    rfl

end Aggregation

end PortableSearch
