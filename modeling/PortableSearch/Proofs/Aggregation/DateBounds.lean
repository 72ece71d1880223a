import PortableSearch.Proofs.Aggregation.Entries
import PortableSearch.Proofs.Calendar.IsoRead
import PortableSearch.Proofs.DateMath.Declared
import PortableSearch.Proofs.DateMath.SteadyRounding

/-! Bounds of date ranges that are moments. A moment given itself is compiled to its milliseconds.
Its ISO text is read as a date, taken to UTC, from there to the clock of the zone of the aggregation
and back; so it is compiled to the same milliseconds, but only where that clock shows it. -/
namespace PortableSearch

namespace Calendar

namespace Zone
variable {z : Zone} {offset utc : Int}

/-- The instant that the clock of the zone means at a UTC time of the calendar. -/
def readBack (z : Zone) (utc : Int) : Except Fault Int := checkWall utc >>= z.ofUtc >>= z.instantOf

theorem Shows.readBack (shows : z.Shows utc) : z.readBack utc = .ok utc := by
  obtain ⟨checked, r, shown, back⟩ := shows
  exact bind_ok.mpr ⟨r, bind_ok.mpr ⟨utc, checked, shown⟩, instantOf_toUtc back⟩

/-- A clock of one offset means an instant exactly where it shows one. -/
theorem readBack_iff (ahead : z.IsAhead offset) :
    (∃ instant, z.readBack utc = .ok instant) ↔ z.Shows utc := by
  refine ⟨?_, fun shows => ⟨utc, shows.readBack⟩⟩
  rintro ⟨instant, meant⟩
  obtain ⟨r, shown, means⟩ := bind_ok.mp meant
  obtain ⟨_, checked, shown⟩ := bind_ok.mp shown
  obtain ⟨inside, rfl⟩ := checkWall_ok.mp checked
  cases ahead with
  | utc => exact (shows_iff .utc).mpr ⟨.utc, inside, by simpa [InCalendar] using inside⟩
  | fixed =>
    obtain ⟨wall, onClock, -⟩ := map_ok.mp shown
    obtain ⟨inside', -⟩ := checkWall_ok.mp onClock
    obtain ⟨stated, atReading, -⟩ := map_ok.mp means
    obtain ⟨same, short⟩ := offsetAt_ok.mp atReading
    cases same
    exact (shows_iff .fixed).mpr ⟨.fixed short, inside, inside'⟩

end Zone

namespace DateMath
variable {zone : Zone} {now : Moment} {cs : List Char} {wall offset : Int}

theorem trimEnds_visible (visible : ∀ c ∈ cs, Text.isBlank c = false) :
    Text.trimEnds Text.isBlank cs = cs := by
  have whole (cs : List Char) (visible : ∀ c ∈ cs, Text.isBlank c = false) :
      cs.dropWhile Text.isBlank = cs := by
    cases cs with
    | nil => rfl
    | cons c cs => simp [visible c]
  rw [Text.trimEnds, whole cs visible, whole, List.reverse_reverse]
  intro c inside
  exact visible c (List.mem_reverse.mp inside)

theorem splitDate_whole (noBar : '|' ∉ cs) : splitDate cs = (cs, []) := by
  induction cs with
  | nil => rfl
  | cons c cs ih =>
    rw [List.mem_cons, not_or] at noBar
    rw [splitDate, ih noBar.2]
    intro rest first _
    exact noBar.1 first.symm

/-- A text that begins with a digit and has neither blanks nor bars is a date alone. -/
theorem readExpression_date {c : Char} (digit : c.isDigit = true)
    (visible : ∀ d ∈ c :: cs, Text.isBlank d = false) (noBar : '|' ∉ c :: cs) :
    readExpression zone now (c :: cs) = (readAnchor zone (c :: cs)).map (·, []) := by
  unfold readExpression
  split
  · rename_i same
    cases same
  · rename_i same
    cases same
    cases digit
  · rw [splitDate_whole noBar]
    simp only [trimEnds_visible visible]

/-- Such a text has the value of the anchor that its date gives. -/
theorem evaluate_date {c : Char} (digit : c.isDigit = true)
    (visible : ∀ d ∈ c :: cs, Text.isBlank d = false) (noBar : '|' ∉ c :: cs) (roundUp : Bool) :
    evaluate zone now roundUp (String.ofList (c :: cs)) =
      readAnchor zone (c :: cs) >>= fun a => a.epochMillis.mapError .calendar := by
  rw [evaluate, String.toList_ofList, trimEnds_visible visible,
    readExpression_date digit visible noBar]
  cases readAnchor zone (c :: cs) with
  | error fault => rfl
  | ok a => exact valueAfter_nil roundUp a

/-- The ISO text of a moment gives the anchor that the clock shows at its UTC time. -/
theorem readAnchor_iso (inside : InCalendar wall) (short : IsShort offset)
    (whole : offset % 60 = 0) : readAnchor zone (Moment.text 'T' ⟨wall, some offset⟩) =
      (checkWall (wall - offset * microsPerSecond) >>= fun utc =>
        (zone.ofUtc utc).map fun r => ⟨zone, r⟩).mapError .calendar := by
  have noNumber : (Moment.text 'T' ⟨wall, some offset⟩).all Text.isDigit = false := by
    obtain ⟨p, text, -⟩ := Moment.text_parts inside short whole
    have mark : '-' ∈ p.text := by simp [Written.IsoParts.text]
    rw [text]
    exact List.all_eq_false.mpr ⟨'-', mark, by decide +kernel⟩
  have toUtc : (Zone.fixed offset).toUtc ⟨wall, false⟩ =
      checkWall (wall - offset * microsPerSecond) := by
    show (Zone.fixed offset).instantOf ⟨wall, false⟩ >>= checkWall = _
    rw [Zone.instantOf_hasOffset (.fixed short)]
    rfl
  rw [readAnchor, noNumber, Moment.read_text inside short whole]
  simp only [Bool.false_and, Bool.false_eq_true, if_false, toUtc]

/-- The ISO text of a moment has the value of the instant that the clock of the zone means there. -/
theorem evaluate_iso (inside : InCalendar wall) (short : IsShort offset) (whole : offset % 60 = 0)
    (roundUp : Bool) :
    evaluate zone now roundUp (Moment.iso ⟨wall, some offset⟩) =
      ((zone.readBack (wall - offset * microsPerSecond)).map (· / 1000)).mapError .calendar := by
  obtain ⟨p, text, means⟩ := Moment.text_parts inside short whole
  have visible : ∀ c ∈ p.text, Text.isBlank c = false := fun c inside =>
    (means.chars c inside).visible.2.1
  have noBar : '|' ∉ p.text := fun inside => (means.chars _ inside).visible.2.2 rfl
  obtain ⟨c, cs, same, digit⟩ := means.begins
  rw [same] at text visible noBar
  rw [Moment.iso, text, evaluate_date digit visible noBar, ← text,
    readAnchor_iso inside short whole, Zone.readBack]
  cases checkWall (wall - offset * microsPerSecond) with
  | error fault => rfl
  | ok utc =>
    show (((zone.ofUtc utc).map _).mapError _ >>= _) =
      ((zone.ofUtc utc >>= zone.instantOf).map _).mapError _
    cases zone.ofUtc utc <;> rfl

end DateMath

end Calendar

namespace Aggregation
open Calendar
variable {zone : Zone} {now d : Moment}

/-- A moment of the calendar with an offset in whole minutes. -/
structure IsAware (d : Moment) : Prop where
  inside : InCalendar d.wall
  offset : ∃ offset, d.offset = some offset ∧ IsShort offset ∧ offset % 60 = 0

/-- The text of a moment is resolved to the milliseconds of the instant that the clock means. -/
theorem resolveBound_iso (aware : IsAware d) : resolveBound zone now (.str d.iso) =
    ((zone.readBack d.utc).map fun instant => Value.int (instant / 1000)).mapError
      fun fault => .dateMath d.iso (.calendar fault) := by
  obtain ⟨inside, offset, given, short, whole⟩ := aware
  obtain ⟨wall, stated⟩ := d
  dsimp only at given
  subst given
  rw [resolveBound, DateMath.evaluate_iso inside short whole]
  show _ = ((zone.readBack (wall - offset * microsPerSecond)).map _).mapError _
  cases zone.readBack (wall - offset * microsPerSecond) <;> rfl

/-- The ways to give a moment as a bound. -/
inductive BoundForm (d : Moment) : Value → Prop where
  | moment : BoundForm d (.moment d)
  | text : BoundForm d (.str d.iso)
  | millis : BoundForm d (.int d.epochMillis)

/-- Where the clock shows the moment, all of them are resolved to its milliseconds. -/
theorem BoundForm.resolve {v : Value} (form : BoundForm d v) (aware : IsAware d)
    (shows : zone.Shows d.utc) : resolveBound zone now v = .ok (.int d.epochMillis) := by
  cases form with
  | moment | millis => rfl
  | text =>
    rw [resolveBound_iso aware, shows.readBack]
    rfl

/-- Two bounds are the same, or two forms of a moment that the clock of the zone shows. -/
def SameBound (zone : Zone) (v w : Option Value) : Prop :=
  v = w ∨ ∃ d a b, IsAware d ∧ zone.Shows d.utc ∧ BoundForm d a ∧ BoundForm d b ∧
    v = some a ∧ w = some b

structure SameSpan (zone : Zone) (s t : Span) : Prop where
  key : s.key = t.key
  start : SameBound zone s.start t.start
  stop : SameBound zone s.stop t.stop

theorem SameBound.resolve {v w : Option Value} (same : SameBound zone v w) :
    resolveBound? zone now v = resolveBound? zone now w := by
  rcases same with rfl | ⟨d, a, b, aware, shows, form, form', rfl, rfl⟩
  · rfl
  · rw [resolveBound?, resolveBound?, form.resolve aware shows, form'.resolve aware shows]

theorem SameSpan.resolve {s t : Span} (same : SameSpan zone s t) :
    s.resolve zone now = t.resolve zone now := by
  rw [Span.resolve, Span.resolve, same.key, same.start.resolve, same.stop.resolve]

/-- A moment as a bound of a date range is compiled to the microseconds since 1970 in UTC, divided
by a thousand and rounded to the past. In UTC and on a clock of one offset its ISO text is compiled
to the same number, or not at all: it is exactly if the offset of the clock is less than a day and
the calendar has the moment in UTC and on that clock. Where it has, an aggregation is compiled alike
for whichever of its bounds the one is given in place of the other. -/
theorem entry_bound_forms {setting : Setting} {own : Option String} {offset : Int}
    (known : Zone.named (Context.zoneFor own setting.timeZone) = .ok zone)
    (ahead : zone.IsAhead offset) (aware : IsAware d) :
    (d.epochMillis * 1000 ≤ d.utc ∧ d.utc < (d.epochMillis + 1) * 1000) ∧
    resolveBound zone setting.anchor (.moment d) = .ok (.int d.epochMillis) ∧
    (∀ bound, resolveBound zone setting.anchor (.str d.iso) = .ok bound ↔
      bound = .int d.epochMillis ∧ zone.HasOffset offset ∧ InCalendar d.utc ∧
        InCalendar (d.utc + offset * microsPerSecond)) ∧
    ∀ key field format count children spans spans', List.Forall₂ (SameSpan zone) spans spans' →
      entry setting (.mk key (.dateRanges field spans format own) count children) =
        entry setting (.mk key (.dateRanges field spans' format own) count children) := by
  refine ⟨?_, rfl, ?_, ?_⟩
  · rw [Moment.epochMillis]
    omega
  · intro bound
    rw [← Zone.shows_iff ahead]
    constructor
    · intro resolved
      have shows : zone.Shows d.utc := by
        rw [resolveBound_iso aware, mapError_ok, map_ok] at resolved
        obtain ⟨instant, meant, -⟩ := resolved
        exact (Zone.readBack_iff ahead).mp ⟨instant, meant⟩
      rw [BoundForm.text.resolve aware shows] at resolved
      cases resolved
      exact ⟨rfl, shows⟩
    · rintro ⟨rfl, shows⟩
      exact BoundForm.text.resolve aware shows
  · intro key field format count children spans spans' same
    have resolved : spans.mapM (Span.resolve zone setting.anchor) =
        spans'.mapM (Span.resolve zone setting.anchor) := by
      induction same with
      | nil => rfl
      | cons first _ ih => rw [List.mapM_cons, List.mapM_cons, first.resolve, ih]
    rw [entry, entry, compile_dateRanges key field spans format known,
      compile_dateRanges key field spans' format known, resolved]

/-- The last microsecond before 1970, with an offset to the west, on a clock to the east. -/
theorem microsecond_before_1970 :
    let setting : Setting := ⟨some "+05:30", ⟨1416306600000000, some 0⟩⟩
    let zone : Zone := .fixed 19800
    let d : Moment := ⟨-12600000001, some (-12600)⟩
    let bounded (v : Value) := entry setting
      (.mk "k" (.dateRanges "t" [⟨none, some v, none⟩] none none) none [])
    Zone.named (Context.zoneFor none setting.timeZone) = .ok zone ∧ zone.IsAhead 19800 ∧
    IsAware d ∧ d.utc = -1 ∧ d.iso = "1969-12-31T20:29:59.999999-03:30" ∧
    resolveBound zone setting.anchor (.moment d) = .ok (.int (-1)) ∧
    resolveBound zone setting.anchor (.str d.iso) = .ok (.int (-1)) ∧
    bounded (.moment d) = bounded (.str d.iso) := by
  intro setting zone d bounded
  have known : Zone.named (Context.zoneFor none setting.timeZone) = .ok zone := by decide +kernel
  have aware : IsAware d := ⟨by decide +kernel, -12600, rfl, by simp [IsShort], rfl⟩
  have has : zone.HasOffset 19800 := .fixed (by decide)
  have inside : InCalendar d.utc := by decide +kernel
  have inside' : InCalendar (d.utc + 19800 * microsPerSecond) := by decide +kernel
  have shows : zone.Shows d.utc := (Zone.shows_iff .fixed).mpr ⟨has, inside, inside'⟩
  obtain ⟨-, moment, text, alike⟩ := entry_bound_forms (d := d) known .fixed aware
  have read := (text _).mpr ⟨rfl, has, inside, inside'⟩
  have same : SameBound zone (some (.moment d)) (some (.str d.iso)) :=
    .inr ⟨d, _, _, aware, shows, .moment, .text, rfl, rfl⟩
  exact ⟨known, .fixed, aware, rfl, by decide +kernel, moment, read,
    alike _ _ _ _ _ _ _ (.cons ⟨rfl, same, .inl rfl⟩ .nil)⟩

/-- A moment is compiled and its text refused on a clock more than a day ahead, and at the beginning
of the calendar where the moment and the clock are ahead of UTC, which is in the year before. -/
theorem moment_without_text :
    let d : Moment := ⟨1416306615000000, some 0⟩
    let d' : Moment := ⟨firstWall + 1800000000, some 3600⟩
    let bounded (name : String) (v : Value) := entry ⟨some name, ⟨1416306600000000, some 0⟩⟩
      (.mk "k" (.dateRanges "t" [⟨none, some v, none⟩] none none) none [])
    Zone.named (some "+25:00") = .ok (.fixed 90000) ∧
    Zone.named (some "+02:00") = .ok (.fixed 7200) ∧
    IsAware d ∧ InCalendar d.utc ∧ InCalendar (d.utc + 90000 * microsPerSecond) ∧
    IsAware d' ∧ InCalendar (d'.utc + 7200 * microsPerSecond) ∧
    bounded "+25:00" (.moment d) = bounded "+25:00" (.int 1416306615000) ∧
    bounded "+25:00" (.str d.iso) = .error (.dateMath d.iso (.calendar .offsetTooLarge)) ∧
    bounded "+02:00" (.moment d') = bounded "+02:00" (.int (-62135598600000)) ∧
    bounded "+02:00" (.str d'.iso) = .error (.dateMath d'.iso (.calendar .beyondCalendar)) := by
  intro d d' bounded
  have far : Zone.named (some "+25:00") = .ok (.fixed 90000) := by decide +kernel
  have near : Zone.named (some "+02:00") = .ok (.fixed 7200) := by decide +kernel
  have aware : IsAware d := ⟨by decide +kernel, 0, rfl, by simp [IsShort], rfl⟩
  have aware' : IsAware d' := ⟨by decide +kernel, 3600, rfl, by simp [IsShort], rfl⟩
  have fails {name zone d fault} (known : Zone.named (some name) = .ok zone)
      (refused : resolveBound zone ⟨1416306600000000, some 0⟩ (.str d) = .error fault) :
      bounded name (.str d) = .error fault := by
    let setting : Setting := ⟨some name, ⟨1416306600000000, some 0⟩⟩
    have known' : Zone.named (Context.zoneFor none setting.timeZone) = .ok zone := known
    show entry setting _ = _
    rw [entry, compile_dateRanges _ _ _ _ known', List.mapM_cons, Span.resolve, resolveBound?,
      resolveBound?, refused]
    rfl
  refine ⟨far, near, aware, by decide +kernel, by decide +kernel, aware', by decide +kernel,
    rfl, fails far ?_, rfl, fails near ?_⟩
  · rw [resolveBound_iso aware]
    rfl
  · rw [resolveBound_iso aware']
    rfl
end Aggregation

end PortableSearch
