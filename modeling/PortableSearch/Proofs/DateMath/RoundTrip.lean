import PortableSearch.Proofs.DateMath.SpacedTable

/-! Clocks that can be read back. From the reading of such a clock, its fold included, the instant
follows at which it is shown, also where a wall time occurs twice. Clocks of one offset are such,
and so are tables where setting the clock back counts from the later offset and is not the first
change. -/
namespace PortableSearch.Calendar

namespace Zone
variable {z : Zone} {offset utc : Int} {r : Reading}

/-- Every reading that the clock shows means the instant at which it is shown. -/
def ReadsBack (z : Zone) : Prop :=
  ∀ utc r, InCalendar utc → z.ofUtc utc = .ok r → z.toUtc r = .ok utc

theorem HasOffset.readsBack (has : z.HasOffset offset) : z.ReadsBack := by
  intro utc r inside shown
  have atUtc := ofUtc_yields has utc
  rw [shown] at atUtc
  obtain rfl : r = ⟨utc + offset * microsPerSecond, false⟩ := atUtc
  have back := toUtc_ok (r := ⟨utc + offset * microsPerSecond, false⟩) has
    (by rwa [Int.add_sub_cancel])
  rwa [Int.add_sub_cancel] at back

/-- Where the clock follows a change whose offset it shows and means alike, its reading is read back
as the instant at which it is shown. -/
theorem Follows.readBack {c : ClockChange} (follows : z.Follows c utc) (plain : c.IsPlain)
    (sound : z.IsSound) (inside : InCalendar utc) (shown : z.ofUtc utc = .ok r)
    (same : c.offsetAt r = c.offsetFrom utc) : z.toUtc r = .ok utc := by
  have there : IsNear utc r.wall := by
    obtain ⟨early, late⟩ := sound.ofUtc_near shown
    simp only [IsNear, microsPerDay, microsPerSecond] at *
    omega
  obtain ⟨wall, inside'⟩ := follows.ofUtc inside (.self utc) shown
  have meant : z.instantOf r = .ok utc := by
    rw [follows.instantOf plain inside' there, ClockChange.instantOf, wall, same,
      Int.add_sub_cancel]
  cases z with
  | utc =>
    cases shown
    rfl
  | fixed | table | yearly => exact bind_ok.mpr ⟨_, meant, inside.checked⟩

end Zone

namespace ZoneTable
variable {t : ZoneTable} {utc : Int} {early late : List Transition} {c : Transition} {r : Reading}

/-- Where a table sets the clock back, it is not for the first time, and the change counts from the
wall time that the later offset gives. -/
def FallsBackPlainly (t : ZoneTable) : Prop :=
  ∀ k, (inTable : k < t.transitions.length) → t.offsetAfter (k + 1) < t.offsetAfter k →
    k ≠ 0 ∧ t.transitions[k].lead = t.offsetAfter (k + 1)

/-- What the clock shows before an entry of the table that is near. -/
theorem Around.shown_early (spaced : t.IsSpaced) (around : t.Around utc early (c :: late))
    (ahead : utc < c.instant * microsPerSecond) (shown : (Zone.table t).ofUtc utc = .ok r) :
    r = ⟨utc + t.offsetAfter early.length * microsPerSecond, false⟩ := by
  have near := Zone.IsSound.ofUtc_near (z := .table t) spaced.sound shown
  have passed : t.passedByUtc utc = early.length := by
    rw [around.passedByUtc (.self utc)]
    simp [ahead]
  obtain ⟨_, checked, rfl⟩ := map_ok.mp shown
  obtain ⟨-, rfl⟩ := checkWall_ok.mp checked
  rw [passed] at near ⊢
  rw [around.isRepeated spaced]
  simp only [IsNear, microsPerDay, microsPerSecond] at *
  omega

/-- What the clock shows after it. -/
theorem Around.shown_late (around : t.Around utc early (c :: late))
    (past : c.instant * microsPerSecond ≤ utc) (shown : (Zone.table t).ofUtc utc = .ok r) :
    r.wall = utc + t.offsetAfter (early.length + 1) * microsPerSecond ∧
      r.fold = (early.length ≠ 0 && r.wall < t.repeatedUpTo early.length c) := by
  have passed : t.passedByUtc utc = early.length + 1 := by
    rw [around.passedByUtc (.self utc)]
    simp [past]
  obtain ⟨_, checked, rfl⟩ := map_ok.mp shown
  obtain ⟨-, rfl⟩ := checkWall_ok.mp checked
  rw [passed, isRepeated_succ around.getElem?]
  exact ⟨rfl, rfl⟩

/-- Where the clock is set forward, its readings count as after the change from when it has been
made, and as before it until then. -/
theorem Around.countsFrom_le_iff (spaced : t.IsSpaced) (around : t.Around utc early (c :: late))
    (shown : (Zone.table t).ofUtc utc = .ok r)
    (later : t.offsetAfter early.length < t.offsetAfter (early.length + 1)) :
    (t.change early.length c).countsFrom r.fold ≤ r.wall ↔ c.instant * microsPerSecond ≤ utc := by
  have forward : (t.change early.length c).before < (t.change early.length c).after :=
    Int.mul_lt_mul_of_pos_right later (by decide)
  obtain ⟨start, stop⟩ := (spaced.change around.getElem?).countsFrom_mem forward r.fold
  change c.instant * microsPerSecond + t.offsetAfter early.length * microsPerSecond ≤ _ at start
  change _ ≤ c.instant * microsPerSecond + t.offsetAfter (early.length + 1) * microsPerSecond
    at stop
  by_cases past : c.instant * microsPerSecond ≤ utc
  · obtain ⟨wall, -⟩ := around.shown_late past shown
    exact iff_of_true (by omega) past
  · have wall := congrArg Reading.wall (around.shown_early spaced (not_le.mp past) shown)
    dsimp only at wall
    exact iff_of_false (by omega) past

/-- The same where a table sets the clock back plainly, since the fold tells the readings before the
change from those after it. -/
theorem Around.countsFrom_le_iff_back (spaced : t.IsSpaced) (plain : t.FallsBackPlainly)
    (around : t.Around utc early (c :: late)) (shown : (Zone.table t).ofUtc utc = .ok r)
    (sooner : t.offsetAfter (early.length + 1) < t.offsetAfter early.length) :
    (t.change early.length c).countsFrom r.fold ≤ r.wall ↔ c.instant * microsPerSecond ≤ utc := by
  obtain ⟨inTable, found⟩ := List.getElem?_eq_some_iff.mp around.getElem?
  obtain ⟨notFirst, lead⟩ := plain _ inTable sooner
  rw [found] at lead
  have counts : c.counts =
      c.instant * microsPerSecond + t.offsetAfter (early.length + 1) * microsPerSecond := by
    rw [Transition.counts, lead, Int.add_mul]
  have repeated : t.repeatedUpTo early.length c =
      c.instant * microsPerSecond + t.offsetAfter early.length * microsPerSecond := by
    simp only [repeatedUpTo, lead, microsPerSecond]
    omega
  have first : (t.change early.length c).countsFrom false =
      max c.counts (t.repeatedUpTo early.length c) := if_neg notFirst
  by_cases past : c.instant * microsPerSecond ≤ utc
  · obtain ⟨wall, fold⟩ := around.shown_late past shown
    refine iff_of_true ?_ past
    cases again : r.fold with
    | true =>
      change c.counts ≤ r.wall
      omega
    | false =>
      have single : ¬ r.wall < t.repeatedUpTo early.length c := by
        simpa [again, notFirst] using fold
      omega
  · have shows := around.shown_early spaced (not_le.mp past) shown
    have wall := congrArg Reading.wall shows
    rw [congrArg Reading.fold shows]
    dsimp only at wall ⊢
    exact iff_of_false (by omega) past

/-- Around a change of such a table, the offset that a reading means is the one that led to it. -/
theorem Around.offsetAt_shown (spaced : t.IsSpaced) (plain : t.FallsBackPlainly)
    (around : t.Around utc early (c :: late)) (shown : (Zone.table t).ofUtc utc = .ok r) :
    (t.change early.length c).offsetAt r = (t.change early.length c).offsetFrom utc := by
  rcases lt_trichotomy (t.offsetAfter early.length) (t.offsetAfter (early.length + 1)) with
    later | same | sooner
  · simp only [ClockChange.offsetAt, around.countsFrom_le_iff spaced shown later]
    rfl
  · simp [ClockChange.offsetAt, ClockChange.offsetFrom, ZoneTable.change, same]
  · simp only [ClockChange.offsetAt, around.countsFrom_le_iff_back spaced plain shown sooner]
    rfl

/-- A spaced table that sets the clock back plainly can be read back. -/
theorem IsSpaced.readsBack (spaced : t.IsSpaced) (plain : t.FallsBackPlainly) :
    (Zone.table t).ReadsBack := by
  intro utc r inside shown
  obtain ⟨early, rest, around⟩ := spaced.around utc
  cases rest with
  | nil =>
    exact (around.follows_steady spaced).readBack
      (ClockChange.steady_plain (spaced.sound.offsetAfter _)) spaced.sound inside shown
      (by rw [ClockChange.steady_offsetAt, ClockChange.steady_offsetFrom])
  | cons c late =>
    exact (around.follows spaced).readBack (spaced.change around.getElem?) spaced.sound inside
      shown (around.offsetAt_shown spaced plain shown)

end ZoneTable

end PortableSearch.Calendar
