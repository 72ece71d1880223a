import PortableSearch.Proofs.Calendar.OffsetNames
import PortableSearch.Proofs.DateMath.RuleChanges

/-! Which names of time zones mean a zone that can be calculated with: one that has an offset of
less than a day at every wall time of the calendar. The places of the database have, and so have
offsets that are short; an offset that is spelled out, or stands after an abbreviation, may be of
any length. -/
namespace PortableSearch.Calendar
variable {r : YearlyRule} {z : Zone} {wall utc days : Int}

instance (offset : Int) : Decidable (IsShort offset) := inferInstanceAs (Decidable (_ < _))

/-- The calendar goes on for so many days before and after a wall time. -/
structure IsAway (days wall : Int) : Prop where
  before : InCalendar (wall - days * microsPerDay)
  after : InCalendar (wall + days * microsPerDay)

theorem IsAway.inside (away : IsAway days utc) (early : utc - days * microsPerDay ≤ wall)
    (late : wall ≤ utc + days * microsPerDay) : InCalendar wall :=
  away.before.between away.after early late

namespace Zone

/-- The zone has an offset of less than a day at every wall time of the calendar. -/
structure IsUsable (z : Zone) : Prop where
  sound : z.IsSound
  stated : ∀ r : Reading, InCalendar r.wall → ∃ offset, z.statedOffset r = .ok offset

/-- The days from the ends of the calendar between which the clock of a usable zone can be set. -/
def margin : Zone → Int
  | .utc | .fixed _ | .table _ => 1
  | .yearly _ => 1000

theorem usable_utc : Zone.utc.IsUsable := ⟨trivial, fun _ _ => ⟨0, rfl⟩⟩

theorem usable_fixed {offset : Int} : (Zone.fixed offset).IsUsable ↔ IsShort offset :=
  ⟨IsUsable.sound, fun short => ⟨short, fun _ _ => ⟨offset, rfl⟩⟩⟩

theorem usable_table {t : ZoneTable} : (Zone.table t).IsUsable ↔ t.IsSound :=
  ⟨IsUsable.sound, fun sound => ⟨sound, fun _ _ => ⟨_, rfl⟩⟩⟩

theorem IsUsable.offset (usable : z.IsUsable) {r : Reading} (inside : InCalendar r.wall) :
    ∃ offset, z.statedOffset r = .ok offset ∧ IsShort offset := by
  obtain ⟨offset, stated⟩ := usable.stated r inside
  have short := usable.sound.statedOffset r
  rw [stated] at short
  exact ⟨offset, stated, short⟩

theorem IsUsable.instantOf (usable : z.IsUsable) {r : Reading} (inside : InCalendar r.wall) :
    ∃ instant, z.instantOf r = .ok instant := by
  obtain ⟨offset, stated, short⟩ := usable.offset inside
  exact ⟨_, map_ok.mpr ⟨offset, bind_ok.mpr ⟨offset, stated, if_pos short⟩, rfl⟩⟩

theorem IsUsable.changesAround (usable : (Zone.yearly r).IsUsable) (inside : InCalendar wall) :
    ∃ start stop, r.changesAround wall = .ok (start, stop) ∧
      (wall - 800 * microsPerDay ≤ start ∧ start ≤ wall + 800 * microsPerDay) ∧
      (wall - 800 * microsPerDay ≤ stop ∧ stop ≤ wall + 800 * microsPerDay) := by
  -- A clock that shows the beginning of a year looks up both changes of that year.
  have always : ∀ year, 1 ≤ year → year ≤ 9999 →
      (∃ start, r.start.wallIn year = .ok start) ∧ ∃ stop, r.stop.wallIn year = .ok stop := by
    intro year first last
    have inside : InCalendar (newYear year) := by
      have begins := newYear_le first
      have ends := newYear_le last
      have length := (newYear_succ 9999).1
      have next : newYear (9999 + 1) = lastWall + 1 := newYear_last
      rw [newYear_first] at begins
      simp only [microsPerDay, microsPerSecond] at length
      exact ⟨begins, by omega⟩
    obtain ⟨offset, stated⟩ := usable.stated ⟨newYear year, false⟩ inside
    obtain ⟨⟨start, stop⟩, changes, -⟩ := bind_ok.mp stated
    obtain ⟨start, starts, rest⟩ := bind_ok.mp changes
    obtain ⟨stop, stops, -⟩ := bind_ok.mp rest
    rw [year_newYear] at starts stops
    exact ⟨⟨start, starts⟩, stop, stops⟩
  obtain ⟨first, last⟩ := inside.year
  obtain ⟨⟨start, starts⟩, stop, stops⟩ := always _ first last
  have near := YearlyChange.wallIn_inYears (fun _ first last => (always _ first last).1) starts
  have near' := YearlyChange.wallIn_inYears (fun _ first last => (always _ first last).2) stops
  obtain ⟨begun, ended⟩ := year_spec wall
  have length := (newYear_succ (dateOfWall wall).year).2
  refine ⟨start, stop, bind_ok.mpr ⟨_, starts, bind_ok.mpr ⟨_, stops, rfl⟩⟩, ?_⟩
  simp only [microsPerDay, microsPerSecond] at *
  omega

theorem IsUsable.yearlyOfUtc (usable : (Zone.yearly r).IsUsable) (away : IsAway 1000 utc) :
    ∃ shown, r.ofUtc utc = .ok shown ∧ InCalendar shown.1 := by
  -- All that the rule calculates is near the moment: its changes are at most 800 days away, and the
  -- offsets that are added to them are short.
  have near : ∀ wall, utc - 900 * microsPerDay ≤ wall ∧ wall ≤ utc + 900 * microsPerDay →
      InCalendar wall := by
    rintro wall ⟨early, late⟩
    refine away.inside ?_ ?_ <;> simp only [microsPerDay, microsPerSecond] at * <;> omega
  have standard := IsShort.micros (YearlyRule.IsSound.standard usable.sound)
  have daylight := IsShort.micros (YearlyRule.IsSound.daylight usable.sound)
  have ahead (daylight : Bool) :=
    IsShort.micros (YearlyRule.IsSound.offsetIf usable.sound daylight)
  obtain ⟨start, stop, changes, starts, stops⟩ :=
    usable.changesAround (near utc (by simp only [microsPerDay, microsPerSecond]; omega))
  have started := near (start - r.standard * microsPerSecond) (by
    simp only [microsPerDay, microsPerSecond] at *; omega)
  have stopped := near (stop - r.standard * microsPerSecond) (by
    simp only [microsPerDay, microsPerSecond] at *; omega)
  simp only [YearlyRule.ofUtc, changes, bind, Except.bind, started.checked, stopped.checked]
  generalize YearlyRule.isBetween _ _ utc = between
  have inside := near (utc + r.offsetIf between * microsPerSecond) (by
    have := ahead between
    simp only [microsPerDay, microsPerSecond] at *; omega)
  cases between with
  | true => exact ⟨_, by simp only [inside.checked]; rfl, inside⟩
  | false =>
    obtain ⟨_, stop', changes', -, stops'⟩ := usable.changesAround inside
    have repeats : InCalendar (stop' + r.lead) := near _ (by
      have := ahead false
      simp only [YearlyRule.lead, microsPerDay, microsPerSecond] at *; omega)
    have repeated (wall : Int) : r.isRepeated stop' wall = _ := YearlyRule.isRepeated_eq repeats
    exact ⟨_, by simp only [inside.checked, changes', repeated]; rfl, inside⟩

theorem IsUsable.ofUtc (usable : z.IsUsable) (away : IsAway z.margin utc) :
    ∃ r, z.ofUtc utc = .ok r ∧ InCalendar r.wall := by
  have onClock : ∀ offset, IsShort offset → 1 ≤ z.margin →
      InCalendar (utc + offset * microsPerSecond) := by
    intro offset short some
    have micros := short.micros
    refine away.inside ?_ ?_ <;> simp only [microsPerDay, microsPerSecond] at * <;> omega
  cases z with
  | utc => exact ⟨_, rfl, by simpa using onClock 0 (by decide) le_rfl⟩
  | fixed offset =>
    have inside := onClock offset usable.sound le_rfl
    exact ⟨_, map_ok.mpr ⟨_, inside.checked, rfl⟩, inside⟩
  | table t =>
    have inside := onClock _ (ZoneTable.IsSound.offsetAfter usable.sound (t.passedByUtc utc)) le_rfl
    exact ⟨_, map_ok.mpr ⟨_, inside.checked, rfl⟩, inside⟩
  | yearly r =>
    obtain ⟨shown, found, inside⟩ := usable.yearlyOfUtc away
    exact ⟨_, map_ok.mpr ⟨_, found, rfl⟩, inside⟩

/-! Rules -/

/-- An offset of the zone is a day or more. -/
def IsLong : Zone → Prop
  | .utc => False
  | .fixed offset => ¬ IsShort offset
  | .table t => ¬ t.IsSound
  | .yearly r => ¬ (IsShort r.standard ∧ IsShort r.daylight)

/-- Changes in ordinary months make a rule usable, unless its offsets are long. -/
theorem usable_yearly (start : r.start.IsOrdinary) (stop : r.stop.IsOrdinary) :
    (Zone.yearly r).IsUsable ↔ IsShort r.standard ∧ IsShort r.daylight := by
  refine ⟨fun usable => ⟨YearlyRule.IsSound.standard usable.sound,
    YearlyRule.IsSound.daylight usable.sound⟩, fun ⟨standard, daylight⟩ => ?_⟩
  obtain ⟨-, month⟩ := start.month
  obtain ⟨-, month'⟩ := stop.month
  have sound : r.IsSound := ⟨standard, daylight, by omega, by omega⟩
  refine ⟨sound, fun reading inside => ?_⟩
  obtain ⟨first, last⟩ := inside.year
  obtain ⟨started, starts, -⟩ := start.wallIn first last
  obtain ⟨stopped, stops, begun, ended⟩ := stop.wallIn first last
  have standard := standard.micros
  have daylight := daylight.micros
  have changes : r.changesAround reading.wall = .ok (started, stopped) :=
    bind_ok.mpr ⟨_, starts, bind_ok.mpr ⟨_, stops, rfl⟩⟩
  have begins := newYear_le first
  have ends : newYear ((dateOfWall reading.wall).year + 1) ≤ newYear 10000 := newYear_le (by omega)
  rw [newYear_first] at begins
  rw [newYear_last] at ends
  have repeats : InCalendar (stopped + r.lead) := by
    simp only [InCalendar, YearlyRule.lead, microsPerDay, microsPerSecond] at *
    omega
  exact ⟨_, YearlyRule.offsetAt_eq changes repeats⟩

/-! Names -/

instance (t : ZoneTable) : Decidable t.IsSound :=
  decidable_of_iff
    (IsShort t.before ∧ IsShort t.standard ∧ ∀ c ∈ t.transitions, IsShort c.offset)
    ⟨fun ⟨before, standard, transitions⟩ => ⟨before, standard, transitions⟩,
      fun sound => ⟨sound.before, sound.standard, sound.transitions⟩⟩

theorem mem_of_lookup {β : Type} {key : String} {entries : List (String × β)} {value : β}
    (found : entries.lookup key = some value) : (key, value) ∈ entries := by
  obtain ⟨before, after, rfl, -⟩ := List.lookup_eq_some_iff.mp found
  exact List.mem_append_right before List.mem_cons_self

theorem steady_short : ∀ entry ∈ steadyPlaces ++ nauticalPlaces, IsShort entry.2 := by
  decide +kernel

theorem tables_sound : ∀ entry ∈ ZoneTable.byName, entry.2.IsSound := by decide +kernel

/-- Every place of the database has a usable zone. -/
theorem ofPlace?_usable {place : String} (found : ofPlace? place = some z) : z.IsUsable := by
  unfold ofPlace? at found
  split at found
  · cases found
    exact usable_fixed.mpr (by decide)
  · rcases Option.or_eq_some_iff.mp found with steady | ⟨-, table⟩
    · obtain ⟨offset, listed, rfl⟩ := Option.map_eq_some_iff.mp steady
      exact usable_fixed.mpr (steady_short _ (mem_of_lookup listed))
    · obtain ⟨t, listed, rfl⟩ := Option.map_eq_some_iff.mp table
      exact usable_table.mpr (tables_sound _ (mem_of_lookup listed))

theorem ofPath?_usable {path : List Char} (found : ofPath? path = some z) : z.IsUsable := by
  obtain ⟨_, -, rest⟩ := Option.bind_eq_some_iff.mp found
  obtain ⟨-, -, place⟩ := Option.bind_eq_some_iff.mp rest
  exact ofPlace?_usable place

/-- A name without a colon in front. -/
def relativeName (name : String) : List Char :=
  match name.toList with
  | ':' :: cs => cs
  | cs => cs

def ofColonless (cs : List Char) : Except NameFault Zone :=
  match cs with
  | [] => .ok (.fixed 0)
  | '/' :: _ => (ofPath? cs).elim (.error .unknown) .ok
  | cs => ofRelativeName cs

theorem ofRelativeName_cases (cs : List Char) : (∃ z, ofRelativeName cs = .ok z ∧ z.IsUsable) ∨
    ofRelativeName cs = .error .unknown ∨ ofRelativeName cs = ofPosix cs := by
  unfold ofRelativeName
  dsimp only
  split
  · rename_i zone found
    refine .inl ⟨zone, rfl, ?_⟩
    rcases Option.or_eq_some_iff.mp found with path | ⟨-, path⟩ <;> exact ofPath?_usable path
  · split
    · exact .inr (.inr rfl)
    · exact .inr (.inl rfl)

theorem ofName_cases (name : String) : (∃ z, ofName name = .ok z ∧ z.IsUsable) ∨
    ofName name = .error .unknown ∨ ofName name = ofPosix (relativeName name) := by
  have same : ofName name = ofColonless (relativeName name) := rfl
  rw [same]
  unfold ofColonless
  split
  · exact .inl ⟨_, rfl, usable_fixed.mpr (by decide)⟩
  · cases found : ofPath? (relativeName name) with
    | none => exact .inr (.inl rfl)
    | some zone => exact .inl ⟨zone, rfl, ofPath?_usable found⟩
  · exact ofRelativeName_cases _

end Zone

namespace DateMath

theorem evaluate_bare (zone : Zone) (now : Moment) (roundUp : Bool) :
    evaluate zone now roundUp "now" =
      (anchorAt zone now >>= Anchor.epochMillis).mapError Fault.calendar := by
  have text : ("now" ++ "" : String) = "now" := by decide
  have empty : trimRight "".toList = [] := by decide
  have none : Writes (trimRight "".toList) [] := by
    rw [empty]
    exact .nil
  rw [← text, evaluate_now none]
  cases anchorAt zone now <;> rfl

/-- On the clock of a usable zone the current moment has a value, away from the ends of the
calendar. -/
theorem evaluate_usable {zone : Zone} (usable : zone.IsUsable) {now : Moment}
    (away : IsAway zone.margin now.utc) (roundUp : Bool) :
    ∃ millis, evaluate zone now roundUp "now" = .ok millis := by
  obtain ⟨reading, shown, inside⟩ := usable.ofUtc away
  obtain ⟨instant, meant⟩ := usable.instantOf inside
  have inside' : InCalendar now.utc := away.inside
    (by cases zone <;> simp only [Zone.margin, microsPerDay, microsPerSecond] <;> omega)
    (by cases zone <;> simp only [Zone.margin, microsPerDay, microsPerSecond] <;> omega)
  have anchor : anchorAt zone now = .ok ⟨zone, reading⟩ :=
    bind_ok.mpr ⟨_, inside'.checked, bind_ok.mpr ⟨_, shown, rfl⟩⟩
  have millis : Anchor.epochMillis ⟨zone, reading⟩ = .ok (instant / 1000) :=
    map_ok.mpr ⟨_, meant, rfl⟩
  exact ⟨_, by rw [evaluate_bare, anchor]; exact mapError_ok.mpr millis⟩

theorem not_evaluate_fixed {offset : Int} (long : ¬ IsShort offset) (now : Moment) (roundUp : Bool)
    (millis : Int) : evaluate (.fixed offset) now roundUp "now" ≠ .ok millis := by
  intro found
  rw [evaluate_bare, mapError_ok] at found
  obtain ⟨a, anchor, found⟩ := bind_ok.mp found
  obtain ⟨utc, -, rest⟩ := bind_ok.mp anchor
  obtain ⟨reading, -, same⟩ := bind_ok.mp rest
  cases same
  obtain ⟨instant, meant, -⟩ := map_ok.mp found
  obtain ⟨offset, checked, -⟩ := map_ok.mp meant
  obtain ⟨_, same, checked⟩ := bind_ok.mp checked
  cases same
  rw [IsShort] at long
  rw [if_neg long] at checked
  cases checked

end DateMath

namespace Zone

theorem named_cases (name : String) : (∃ z, named (some name) = .ok z ∧ z.IsUsable) ∨
    (∃ offset, NamesOffset name offset ∧ named (some name) = .ok (.fixed offset)) ∨
    named (some name) = .error .unknown ∨ named (some name) = ofPosix (relativeName name) := by
  by_cases spelled : ∃ offset, NamesOffset name offset
  · obtain ⟨offset, spelled⟩ := spelled
    exact .inr (.inl ⟨offset, spelled, spelled.named⟩)
  · have unread : readOffset? (Text.trimEnds Text.isBlank name.toList) = none := by
      rw [Option.eq_none_iff_forall_ne_some]
      exact fun offset read => spelled ⟨offset, readOffset?_iff.mp read⟩
    rw [named, unread]
    split
    · exact .inl ⟨_, rfl, usable_utc⟩
    · rcases ofName_cases name with usable | unknown | posix
      · exact .inl usable
      · exact .inr (.inr (.inl unknown))
      · exact .inr (.inr (.inr posix))

/-- A zone that is not usable has a long offset, or a rule that is out of the ordinary. -/
theorem usable_or (z : Zone) : z.IsUsable ∨ z.IsLong ∨
    ∃ r, z = .yearly r ∧ ¬ (r.start.IsOrdinary ∧ r.stop.IsOrdinary) := by
  cases z with
  | utc => exact .inl usable_utc
  | fixed offset =>
    by_cases short : IsShort offset
    · exact .inl (usable_fixed.mpr short)
    · exact .inr (.inl short)
  | table t =>
    by_cases sound : t.IsSound
    · exact .inl (usable_table.mpr sound)
    · exact .inr (.inl sound)
  | yearly r =>
    by_cases ordinary : r.start.IsOrdinary ∧ r.stop.IsOrdinary
    · by_cases short : IsShort r.standard ∧ IsShort r.daylight
      · exact .inl ((usable_yearly ordinary.1 ordinary.2).mpr short)
      · exact .inr (.inl short)
    · exact .inr (.inr ⟨r, rfl, ordinary⟩)

/-- A name that spells an offset means it, however long. Every other name is unknown, or means a
usable zone, or stands for an abbreviation with an offset; the zone of the latter is usable unless
it has a long offset or a rule that is out of the ordinary. Usable zones have an offset of less than
a day at every wall time, and give the current moment a value away from the ends of the calendar; on
a clock that is a day or more off it has none. -/
theorem named_usable (name : String) :
    (∀ offset, NamesOffset name offset → named (some name) = .ok (.fixed offset)) ∧
    (∀ zone, named (some name) = .ok zone → zone.IsUsable ∨
      (∃ offset, NamesOffset name offset ∧ zone = .fixed offset ∧ ¬ IsShort offset) ∨
      (ofPosix (relativeName name) = .ok zone ∧ (zone.IsLong ∨
        ∃ r, zone = .yearly r ∧ ¬ (r.start.IsOrdinary ∧ r.stop.IsOrdinary)))) ∧
    (∀ fault, named (some name) = .error fault →
      fault = .unknown ∨ ofPosix (relativeName name) = .error fault) ∧
    (∀ zone, zone.IsUsable →
      (∀ r, InCalendar r.wall → ∃ offset, zone.statedOffset r = .ok offset ∧ IsShort offset) ∧
      ∀ now roundUp, IsAway zone.margin now.utc →
        ∃ millis, DateMath.evaluate zone now roundUp "now" = .ok millis) ∧
    ∀ offset, ¬ IsShort offset → ∀ now roundUp millis,
      DateMath.evaluate (.fixed offset) now roundUp "now" ≠ .ok millis := by
  refine ⟨fun _ => NamesOffset.named, fun zone meant => ?_, fun fault refused => ?_,
    fun zone usable => ⟨fun r => usable.offset, fun now roundUp away =>
      DateMath.evaluate_usable usable away roundUp⟩,
    fun offset long => DateMath.not_evaluate_fixed long⟩
  · rcases named_cases name with ⟨_, same, usable⟩ | ⟨offset, spelled, same⟩ | unknown | posix
    · cases meant.symm.trans same
      exact .inl usable
    · cases meant.symm.trans same
      by_cases short : IsShort offset
      · exact .inl (usable_fixed.mpr short)
      · exact .inr (.inl ⟨offset, spelled, rfl, short⟩)
    · cases meant.symm.trans unknown
    · rcases zone.usable_or with usable | odd
      · exact .inl usable
      · exact .inr (.inr ⟨posix.symm.trans meant, odd⟩)
  · rcases named_cases name with ⟨_, same, -⟩ | ⟨_, -, same⟩ | unknown | posix
    · cases refused.symm.trans same
    · cases refused.symm.trans same
    · cases refused.symm.trans unknown
      exact .inl rfl
    · exact .inr (posix.symm.trans refused)

/-- An offset with a digit of another script, and an abbreviation with daylight time. -/
theorem offset_and_abbreviation_usable :
    let rule : YearlyRule := ⟨-18000, -14400, ⟨4, 1, false, some (6, 1), 7200⟩,
      ⟨10, 31, false, some (6, -1), 3600⟩⟩
    let now : Moment := ⟨1416306615000000, some 0⟩
    NamesOffset " +٥:30" 19800 ∧ named (some " +٥:30") = .ok (.fixed 19800) ∧
    named (some "AAA5BBB") = .ok (.yearly rule) ∧ (Zone.yearly rule).IsUsable ∧
    IsAway 1000 now.utc ∧
    ∃ millis, DateMath.evaluate (.yearly rule) now true "now" = .ok millis := by
  intro rule now
  obtain ⟨spelled, -, -, usable, -⟩ := named_usable " +٥:30"
  have offset : NamesOffset " +٥:30" 19800 := readOffset?_iff.mp (by decide +kernel)
  have start : rule.start.IsOrdinary := ⟨by decide, by decide, by decide⟩
  have stop : rule.stop.IsOrdinary := ⟨by decide, by decide, by decide⟩
  have zone : (Zone.yearly rule).IsUsable := (usable_yearly start stop).mpr (by decide)
  have away : IsAway 1000 now.utc := ⟨by decide, by decide⟩
  exact ⟨offset, spelled _ offset, by decide +kernel, zone, away,
    (usable _ zone).2 now true away⟩

/-- A text that spells an offset of more than a day, an abbreviation with an offset of a day, and
one with an offset that is no span of time. -/
theorem long_offset_accepted :
    NamesOffset "+25:00" 90000 ∧ named (some "+25:00") = .ok (.fixed 90000) ∧
    named (some "ABC2400") = .ok (.fixed (-86400)) ∧
    (∀ offset r, (Zone.fixed offset).statedOffset r = .ok offset) ∧
    ¬ IsShort 90000 ∧ ¬ IsShort (-86400) ∧
    named (some "ABC23595923595930:30") = .error .offsetTooLong := by
  have offset : NamesOffset "+25:00" 90000 := readOffset?_iff.mp (by decide +kernel)
  exact ⟨offset, by decide +kernel, by decide +kernel, fun _ _ => rfl, by decide, by decide,
    by decide +kernel⟩

end Zone

end PortableSearch.Calendar
