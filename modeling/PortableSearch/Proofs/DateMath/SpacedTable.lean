import PortableSearch.Proofs.DateMath.ClockChange

/-! Tables with two weeks between their changes. Around every time their clock follows one change
alone: of the entries all but one are either passed by then or to come. -/
namespace PortableSearch.Calendar

/-- The wall time from which a change counts for all readings. -/
def Transition.counts (c : Transition) : Int := (c.instant + c.lead) * microsPerSecond

namespace ZoneTable
variable {t : ZoneTable} {center time wall : Int} {early rest late : List Transition}
  {c : Transition}

/-- The changes of a table come two weeks after each other, and a change that sets the clock
forward, by a day at most, counts from a wall time in the gap. -/
structure IsSpaced (t : ZoneTable) : Prop where
  sound : t.IsSound
  apart : t.transitions.Pairwise fun c d => c.instant + 14 * 86400 ≤ d.instant
  lead : ∀ c ∈ t.transitions, IsShort c.lead
  forward : ∀ k, (inTable : k < t.transitions.length) →
    t.offsetAfter k < t.offsetAfter (k + 1) →
    t.offsetAfter k ≤ t.transitions[k].lead ∧ t.transitions[k].lead ≤ t.offsetAfter (k + 1) ∧
      t.offsetAfter (k + 1) ≤ t.offsetAfter k + 86400

/-- The wall time up to which a change repeats others. -/
def repeatedUpTo (t : ZoneTable) (k : Nat) (c : Transition) : Int :=
  (c.instant + c.lead + t.offsetAfter k - t.offsetAfter (k + 1)) * microsPerSecond

/-- The change of the clock that an entry of the table makes. -/
def change (t : ZoneTable) (k : Nat) (c : Transition) : ClockChange where
  instant := c.instant * microsPerSecond
  before := t.offsetAfter k * microsPerSecond
  after := t.offsetAfter (k + 1) * microsPerSecond
  first := if k = 0 then c.counts else max c.counts (t.repeatedUpTo k c)
  second := c.counts

/-- The entries long before a time, the one around it and those long after it. -/
structure Around (t : ZoneTable) (center : Int) (early rest : List Transition) : Prop where
  whole : t.transitions = early ++ rest
  early : ∀ c ∈ early, c.instant * microsPerSecond ≤ center - 8 * microsPerDay
  late : ∀ c ∈ rest.tail, center + 6 * microsPerDay < c.instant * microsPerSecond

theorem IsSpaced.around (spaced : t.IsSpaced) (center : Int) :
    ∃ early rest, t.Around center early rest := by
  let passed (c : Transition) : Bool := c.instant * microsPerSecond ≤ center - 8 * microsPerDay
  refine ⟨t.transitions.takeWhile passed, t.transitions.dropWhile passed,
    (List.takeWhile_append_dropWhile).symm, ?_, ?_⟩
  · intro c mem
    simpa [passed] using List.all_eq_true.mp List.all_takeWhile c mem
  · intro d mem
    cases left : t.transitions.dropWhile passed with
    | nil => simp [left] at mem
    | cons c late =>
      have next : center - 8 * microsPerDay < c.instant * microsPerSecond := by
        have head := List.head_dropWhile_not passed (l := t.transitions) (by simp [left])
        simpa [left, passed] using head
      have ordered := spaced.apart.sublist (List.dropWhile_sublist passed)
      rw [left] at ordered mem
      have later := List.rel_of_pairwise_cons ordered mem
      simp only [microsPerDay, microsPerSecond] at *
      omega

/-- Near a time, the entries that have been passed are the early ones, and the next one where it has
been passed. -/
theorem Around.countP {p : Transition → Bool} (around : t.Around center early rest)
    (passed : ∀ c ∈ early, p c = true) (ahead : ∀ c ∈ rest.tail, p c = false) :
    t.transitions.countP p = early.length + if rest.head?.any p then 1 else 0 := by
  rw [around.whole, List.countP_append, List.countP_eq_length.mpr passed]
  cases rest with
  | nil => rfl
  | cons c late =>
    have none : late.countP p = 0 := List.countP_eq_zero.mpr fun d mem => by
      simp [ahead d mem]
    rw [List.countP_cons, none, Nat.zero_add]
    rfl

/-- The stretch that an early entry repeats is over. -/
theorem Around.isRepeated (spaced : t.IsSpaced) (around : t.Around center early rest)
    (near : IsNear center wall) : t.isRepeated early.length wall = false := by
  unfold ZoneTable.isRepeated
  split
  · rfl
  · rfl
  · rename_i k _ count
    split
    · rename_i c found
      have mem : c ∈ early := by
        rw [around.whole, List.getElem?_append_left (by omega)] at found
        exact List.mem_of_getElem? found
      have inTable : c ∈ t.transitions := around.whole ▸ List.mem_append_left rest mem
      have passed := around.early c mem
      have lead := spaced.lead c inTable
      have before := spaced.sound.offsetAfter k
      have after := spaced.sound.offsetAfter (k + 1)
      apply decide_eq_false
      simp only [IsShort, IsNear, microsPerDay, microsPerSecond] at *
      omega
    · rfl

theorem isRepeated_succ {k : Nat} (found : t.transitions[k]? = some c) (wall : Int) :
    t.isRepeated (k + 1) wall = (k ≠ 0 && wall < t.repeatedUpTo k c) := by
  cases k with
  | zero => rfl
  | succ k =>
    rw [ZoneTable.isRepeated, found]
    · rfl
    · simp

theorem Around.getElem? (around : t.Around center early (c :: late)) :
    t.transitions[early.length]? = some c := by
  rw [around.whole]
  simp

theorem Around.passedByUtc (around : t.Around center early rest) (near : IsNear center time) :
    t.passedByUtc time =
      early.length + if rest.head?.any (·.instant * microsPerSecond ≤ time) then 1 else 0 := by
  apply around.countP
  · intro c mem
    have passed := around.early c mem
    apply decide_eq_true
    simp only [IsNear, microsPerDay, microsPerSecond] at *
    omega
  · intro c mem
    have ahead := around.late c mem
    apply decide_eq_false
    simp only [IsNear, microsPerDay, microsPerSecond] at *
    omega

theorem Around.passedByWall (spaced : t.IsSpaced) (around : t.Around center early rest)
    (near : IsNear center wall) :
    t.passedByWall wall = early.length + if rest.head?.any (·.counts ≤ wall) then 1 else 0 := by
  apply around.countP
  · intro c mem
    have lead := spaced.lead c (around.whole ▸ List.mem_append_left rest mem)
    have passed := around.early c mem
    apply decide_eq_true
    simp only [IsShort, IsNear, microsPerDay, microsPerSecond] at *
    omega
  · intro c mem
    have lead := spaced.lead c
      (around.whole ▸ List.mem_append_right early (List.mem_of_mem_tail mem))
    have ahead := around.late c mem
    apply decide_eq_false
    simp only [IsShort, IsNear, microsPerDay, microsPerSecond] at *
    omega

theorem IsSpaced.change (spaced : t.IsSpaced) {k : Nat} (found : t.transitions[k]? = some c) :
    (t.change k c).IsPlain where
  order := by
    show c.counts ≤ if k = 0 then c.counts else max c.counts (t.repeatedUpTo k c)
    split
    · exact le_rfl
    · exact le_max_left _ _
  before := IsShort.micros (spaced.sound.offsetAfter k)
  after := IsShort.micros (spaced.sound.offsetAfter (k + 1))
  forward := by
    intro forward
    obtain ⟨inTable, rfl⟩ := List.getElem?_eq_some_iff.mp found
    simp only [ZoneTable.change, Transition.counts, repeatedUpTo, microsPerDay,
      microsPerSecond] at *
    obtain ⟨first, last, short⟩ := spaced.forward k inTable (by omega)
    split <;> omega

/-- Before the entry counts and where there is none, the offset is that after the early entries. -/
theorem Around.offsetAt_early (spaced : t.IsSpaced) (around : t.Around center early rest)
    {r : Reading} (near : IsNear center r.wall)
    (ahead : rest.head?.any (·.counts ≤ r.wall) = false) :
    t.offsetAt r = t.offsetAfter early.length := by
  have passed := around.passedByWall spaced near
  rw [ahead] at passed
  simp [ZoneTable.offsetAt, passed, around.isRepeated spaced near]

theorem Around.offsetAt_late (spaced : t.IsSpaced) (around : t.Around center early (c :: late))
    {r : Reading} (near : IsNear center r.wall) (passed : c.counts ≤ r.wall) :
    t.offsetAt r * microsPerSecond = (t.change early.length c).offsetAt r := by
  have count : t.passedByWall r.wall = early.length + 1 := by
    rw [around.passedByWall spaced near]
    simp [passed]
  simp only [ZoneTable.offsetAt, count, isRepeated_succ around.getElem?, ClockChange.offsetAt,
    ClockChange.countsFrom, ZoneTable.change, Nat.add_sub_cancel]
  cases r.fold with
  | true => simp [passed]
  | false =>
    by_cases first : early.length = 0
    · simp [first, passed]
    · by_cases repeats : r.wall < t.repeatedUpTo early.length c
      · simp [first, passed, repeats]
      · simp [first, passed, repeats, not_lt.mp repeats]

theorem ofUtc_reading (t : ZoneTable) (utc : Int) : ∃ fold, (Zone.table t).ofUtc utc =
    (checkWall (utc + t.offsetAfter (t.passedByUtc utc) * microsPerSecond)).map (⟨·, fold⟩) := by
  simp only [Zone.ofUtc]
  generalize utc + t.offsetAfter (t.passedByUtc utc) * microsPerSecond = wall
  refine ⟨t.isRepeated (t.passedByUtc utc) wall, ?_⟩
  unfold checkWall
  split <;> rfl

/-- After all entries of a table the clock keeps its offset. -/
theorem Around.follows_steady (spaced : t.IsSpaced) (around : t.Around center early []) :
    (Zone.table t).Follows (ClockChange.steady (t.offsetAfter early.length)) center where
  stated r _ near := by
    refine ⟨_, rfl, ?_⟩
    rw [ClockChange.steady_offsetAt, around.offsetAt_early spaced near rfl]
  shown utc _ near := by
    have passed : t.passedByUtc utc = early.length := around.passedByUtc near
    rw [ClockChange.steady_offsetFrom, ← passed]
    exact ofUtc_reading t utc

theorem Around.follows (spaced : t.IsSpaced) (around : t.Around center early (c :: late)) :
    (Zone.table t).Follows (t.change early.length c) center where
  stated r _ near := by
    refine ⟨_, rfl, ?_⟩
    by_cases passed : c.counts ≤ r.wall
    · exact around.offsetAt_late spaced near passed
    · rw [around.offsetAt_early spaced near (by simp [passed])]
      have before : r.wall < (t.change early.length c).countsFrom r.fold := by
        have order : (t.change early.length c).countsFrom true ≤
            (t.change early.length c).countsFrom r.fold :=
          (spaced.change around.getElem?).countsFrom_le (by cases r.fold <;> simp)
        exact lt_of_lt_of_le (not_le.mp passed) order
      exact (if_neg (by omega)).symm
  shown utc _ near := by
    have passed := around.passedByUtc near
    have same : (t.change early.length c).offsetFrom utc =
        t.offsetAfter (t.passedByUtc utc) * microsPerSecond := by
      by_cases past : c.instant * microsPerSecond ≤ utc
      · rw [passed]
        simp [ClockChange.offsetFrom, ZoneTable.change, past]
      · rw [passed]
        simp [ClockChange.offsetFrom, ZoneTable.change, past]
    rw [same]
    exact ofUtc_reading t utc

/-- Around every time the clock of a spaced table follows one change. -/
theorem IsSpaced.follows (spaced : t.IsSpaced) (center : Int) :
    ∃ c : ClockChange, c.IsPlain ∧ (Zone.table t).Follows c center := by
  obtain ⟨early, rest, around⟩ := spaced.around center
  cases rest with
  | nil =>
    exact ⟨_, ClockChange.steady_plain (spaced.sound.offsetAfter _), around.follows_steady spaced⟩
  | cons c late => exact ⟨_, spaced.change around.getElem?, around.follows spaced⟩

end ZoneTable

end PortableSearch.Calendar
