import PortableSearch.Proofs.DateMath.SteadyRounding

/-! Clocks around a change. Near a wall time a clock has one change at most, at which the offset
from UTC goes over from one value to another. What becomes of a wall time there is a matter of a few
integers: one that occurs comes before the later ones of the clock, and one in a gap is moved on by
the length of the gap. -/
namespace PortableSearch.Calendar

/-- A change of a clock, in microseconds. At `instant` the offset from UTC goes over from `before`
to `after`. Wall times count as after it from `second` on, and only from `first` on where they are
not known to be the second of two occurrences. -/
structure ClockChange where
  instant : Int
  before : Int
  after : Int
  first : Int
  second : Int

theorem IsShort.micros {offset : Int} (short : IsShort offset) :
    -microsPerDay < offset * microsPerSecond ∧ offset * microsPerSecond < microsPerDay := by
  simp only [IsShort, microsPerDay, microsPerSecond] at *
  omega

namespace ClockChange
variable {c : ClockChange} {floor r : Reading}

/-- The wall time from which readings count as after the change. -/
def countsFrom (c : ClockChange) (fold : Bool) : Int := if fold then c.second else c.first

/-- The offset that a reading means. -/
def offsetAt (c : ClockChange) (r : Reading) : Int :=
  if c.countsFrom r.fold ≤ r.wall then c.after else c.before

/-- The offset that the clock shows at an instant. -/
def offsetFrom (c : ClockChange) (utc : Int) : Int :=
  if c.instant ≤ utc then c.after else c.before

/-- The instant that a reading means. -/
def instantOf (c : ClockChange) (r : Reading) : Int := r.wall - c.offsetAt r

/-- The clock shows the reading at the instant that it means. -/
def Occurs (c : ClockChange) (r : Reading) : Prop := c.offsetFrom (c.instantOf r) = c.offsetAt r

instance : Decidable (c.Occurs r) := inferInstanceAs (Decidable (_ = _))

/-- The clock is set forward over the wall time. -/
structure Skips (c : ClockChange) (wall : Int) : Prop where
  start : c.instant + c.before ≤ wall
  stop : wall < c.instant + c.after

/-- The difference of the offsets a day later and a day earlier. -/
def gapAt (c : ClockChange) (wall : Int) : Int :=
  c.offsetAt ⟨wall + microsPerDay, false⟩ - c.offsetAt ⟨wall - microsPerDay, false⟩

/-- Where a reading is moved to that need not occur. -/
def resolve (c : ClockChange) (r : Reading) : Reading :=
  if c.Occurs r then r else ⟨r.wall + c.gapAt r.wall, false⟩

/-- The offsets are less than a day. Where the clock is set forward, by a day at most, the change
counts from the same wall time in the gap for all readings. -/
structure IsPlain (c : ClockChange) : Prop where
  order : c.second ≤ c.first
  before : -microsPerDay < c.before ∧ c.before < microsPerDay
  after : -microsPerDay < c.after ∧ c.after < microsPerDay
  forward : c.before < c.after → c.first = c.second ∧ c.instant + c.before ≤ c.first ∧
    c.first ≤ c.instant + c.after ∧ c.after - c.before ≤ microsPerDay

theorem offsetAt_cases (c : ClockChange) (r : Reading) :
    c.countsFrom r.fold ≤ r.wall ∧ c.offsetAt r = c.after ∨
      r.wall < c.countsFrom r.fold ∧ c.offsetAt r = c.before := by
  unfold offsetAt
  split
  · exact .inl ⟨‹_›, rfl⟩
  · exact .inr ⟨by omega, rfl⟩

theorem offsetFrom_cases (c : ClockChange) (utc : Int) :
    c.instant ≤ utc ∧ c.offsetFrom utc = c.after ∨
      utc < c.instant ∧ c.offsetFrom utc = c.before := by
  unfold offsetFrom
  split
  · exact .inl ⟨‹_›, rfl⟩
  · exact .inr ⟨by omega, rfl⟩

theorem IsPlain.offsetAt (plain : c.IsPlain) (r : Reading) :
    -microsPerDay < c.offsetAt r ∧ c.offsetAt r < microsPerDay := by
  rcases c.offsetAt_cases r with ⟨-, same⟩ | ⟨-, same⟩
  · rw [same]
    exact plain.after
  · rw [same]
    exact plain.before

theorem IsPlain.countsFrom_le (plain : c.IsPlain) {fold fold' : Bool}
    (earlier : fold = fold' ∨ fold = false) : c.countsFrom fold' ≤ c.countsFrom fold := by
  rcases earlier with rfl | rfl
  · exact Int.le_refl _
  · cases fold' with
    | false => exact Int.le_refl _
    | true => exact plain.order

theorem IsPlain.countsFrom_mem (plain : c.IsPlain) (forward : c.before < c.after) (fold : Bool) :
    c.instant + c.before ≤ c.countsFrom fold ∧ c.countsFrom fold ≤ c.instant + c.after := by
  obtain ⟨same, start, stop, -⟩ := plain.forward forward
  cases fold with
  | false => exact ⟨start, stop⟩
  | true =>
    rw [same] at start stop
    exact ⟨start, stop⟩

/-- A reading of the clock does not come before an earlier one. -/
theorem Occurs.le (plain : c.IsPlain) (occurs : c.Occurs floor) (shown : c.Occurs r)
    (earlier : floor.wall ≤ r.wall) (fold : floor.fold = r.fold ∨ floor.fold = false) :
    c.instantOf floor ≤ c.instantOf r := by
  have order := plain.countsFrom_le fold
  have start := fun forward => plain.countsFrom_mem forward floor.fold
  simp only [Occurs, ClockChange.instantOf] at *
  rcases c.offsetAt_cases floor with ⟨past, same⟩ | ⟨past, same⟩ <;>
  rcases c.offsetAt_cases r with ⟨past', same'⟩ | ⟨past', same'⟩ <;>
  rcases c.offsetFrom_cases (floor.wall - c.offsetAt floor) with ⟨shows, from'⟩ | ⟨shows, from'⟩ <;>
  rcases c.offsetFrom_cases (r.wall - c.offsetAt r) with ⟨shows', from''⟩ | ⟨shows', from''⟩ <;>
  omega

/-- Over a gap a wall time is moved by the length of the gap. -/
theorem Skips.gapAt {wall : Int} (plain : c.IsPlain) (skips : c.Skips wall) :
    c.gapAt wall = c.after - c.before := by
  obtain ⟨start, stop⟩ := skips
  have forward : c.before < c.after := by omega
  obtain ⟨-, -, -, short⟩ := plain.forward forward
  obtain ⟨late, early⟩ := plain.countsFrom_mem forward false
  have later := c.offsetAt_cases ⟨wall + microsPerDay, false⟩
  have earlier := c.offsetAt_cases ⟨wall - microsPerDay, false⟩
  simp only [ClockChange.gapAt] at *
  omega

theorem Skips.not_occurs (skips : c.Skips r.wall) : ¬ c.Occurs r := by
  obtain ⟨start, stop⟩ := skips
  have offset := c.offsetAt_cases r
  have shown := c.offsetFrom_cases (c.instantOf r)
  simp only [Occurs, ClockChange.instantOf] at *
  omega

theorem Skips.le_iff (plain : c.IsPlain) (skips : c.Skips floor.wall) (shown : c.Occurs r)
    (earlier : floor.wall ≤ r.wall) :
    c.instantOf ⟨floor.wall + c.gapAt floor.wall, false⟩ ≤ c.instantOf r ↔
      floor.wall + c.gapAt floor.wall ≤ r.wall := by
  rw [skips.gapAt plain]
  obtain ⟨start, stop⟩ := skips
  have forward : c.before < c.after := by omega
  obtain ⟨-, late⟩ := plain.countsFrom_mem forward false
  have moved := c.offsetAt_cases ⟨floor.wall + (c.after - c.before), false⟩
  have offset := c.offsetAt_cases r
  have shows := c.offsetFrom_cases (c.instantOf r)
  simp only [Occurs, ClockChange.instantOf] at *
  omega

/-- On a clock that is set forward only the wall times in the gap do not occur. -/
theorem skips_of_never (plain : c.IsPlain) (forward : c.before < c.after) (never : ¬ c.Occurs r) :
    c.Skips r.wall := by
  obtain ⟨late, early⟩ := plain.countsFrom_mem forward r.fold
  have offset := c.offsetAt_cases r
  have shows := c.offsetFrom_cases (c.instantOf r)
  simp only [Occurs, ClockChange.instantOf] at *
  constructor <;> omega

/-- A wall time that is in no gap and does not occur is moved to the past, if at all. -/
theorem moved_le (plain : c.IsPlain) (never : ¬ c.Occurs floor) (inNoGap : ¬ c.Skips floor.wall)
    (earlier : floor.wall ≤ r.wall) :
    c.instantOf ⟨floor.wall + c.gapAt floor.wall, false⟩ ≤ c.instantOf r := by
  have back : c.after ≤ c.before := by
    by_contra forward
    exact inNoGap (skips_of_never plain (by omega) never)
  have order := plain.countsFrom_le (.inr rfl : false = r.fold ∨ false = false)
  have later := c.offsetAt_cases ⟨floor.wall + microsPerDay, false⟩
  have sooner := c.offsetAt_cases ⟨floor.wall - microsPerDay, false⟩
  have down : c.gapAt floor.wall ≤ 0 := by
    simp only [ClockChange.gapAt, microsPerDay, microsPerSecond] at *
    omega
  have moved := c.offsetAt_cases ⟨floor.wall + c.gapAt floor.wall, false⟩
  have offset := c.offsetAt_cases r
  simp only [ClockChange.instantOf] at *
  omega

/-- To move a reading leads behind a later one exactly where the clock skips it and the later one is
nearer than the gap is long. -/
theorem lt_resolve_iff (plain : c.IsPlain) (shown : c.Occurs r) (earlier : floor.wall ≤ r.wall)
    (fold : floor.fold = r.fold ∨ floor.fold = false) :
    c.instantOf r < c.instantOf (c.resolve floor) ↔
      c.Skips floor.wall ∧ r.wall < floor.wall + (c.after - c.before) := by
  by_cases occurs : c.Occurs floor
  · have le := occurs.le plain shown earlier fold
    have inNoGap : ¬ c.Skips floor.wall := fun skips => skips.not_occurs occurs
    simp only [resolve, if_pos occurs, inNoGap, false_and, iff_false]
    omega
  · rw [resolve, if_neg occurs]
    by_cases skips : c.Skips floor.wall
    · have le := skips.le_iff plain shown earlier
      simp only [skips, true_and, ← skips.gapAt plain]
      omega
    · have le := moved_le plain occurs skips earlier
      simp only [skips, false_and, iff_false]
      omega

/-- A reading is moved by less than two days. -/
theorem IsPlain.resolve (plain : c.IsPlain) (r : Reading) :
    r.wall - 2 * microsPerDay < (c.resolve r).wall ∧
      (c.resolve r).wall < r.wall + 2 * microsPerDay := by
  have later := plain.offsetAt ⟨r.wall + microsPerDay, false⟩
  have sooner := plain.offsetAt ⟨r.wall - microsPerDay, false⟩
  unfold ClockChange.resolve
  simp only [gapAt, microsPerDay, microsPerSecond] at *
  split
  · omega
  · simp only
    omega

/-- No change at all. -/
def steady (offset : Int) : ClockChange where
  instant := 0
  before := offset * microsPerSecond
  after := offset * microsPerSecond
  first := 0
  second := 0

theorem steady_plain {offset : Int} (short : IsShort offset) : (steady offset).IsPlain where
  order := le_rfl
  before := short.micros
  after := short.micros
  forward forward := absurd forward (Int.lt_irrefl _)

theorem steady_offsetAt (offset : Int) (r : Reading) :
    (steady offset).offsetAt r = offset * microsPerSecond := ite_self _

theorem steady_offsetFrom (offset utc : Int) :
    (steady offset).offsetFrom utc = offset * microsPerSecond := ite_self _

end ClockChange

/-- Five days before or after a time. -/
def IsNear (center time : Int) : Prop :=
  center - 5 * microsPerDay ≤ time ∧ time ≤ center + 5 * microsPerDay

theorem IsNear.self (time : Int) : IsNear time time := by
  simp only [IsNear, microsPerDay, microsPerSecond]
  omega

/-- Around a wall time the clock of the zone is changed as said, and not otherwise. -/
structure Zone.Follows (z : Zone) (c : ClockChange) (center : Int) : Prop where
  stated : ∀ r : Reading, InCalendar r.wall → IsNear center r.wall →
    ∃ offset, z.statedOffset r = .ok offset ∧ offset * microsPerSecond = c.offsetAt r
  shown : ∀ utc, InCalendar utc → IsNear center utc →
    ∃ fold, z.ofUtc utc = (checkWall (utc + c.offsetFrom utc)).map (⟨·, fold⟩)

namespace Zone.Follows
variable {z : Zone} {c : ClockChange} {center utc : Int} {r moved : Reading}

theorem offsetAt (follows : z.Follows c center) (plain : c.IsPlain) (inside : InCalendar r.wall)
    (near : IsNear center r.wall) :
    ∃ offset, z.offsetAt r = .ok offset ∧ offset * microsPerSecond = c.offsetAt r := by
  obtain ⟨offset, stated, same⟩ := follows.stated r inside near
  have short := plain.offsetAt r
  rw [← same] at short
  have small : offset.natAbs < 86400 := by
    simp only [microsPerDay, microsPerSecond] at short
    omega
  exact ⟨offset, bind_ok.mpr ⟨_, stated, if_pos small⟩, same⟩

theorem instantOf (follows : z.Follows c center) (plain : c.IsPlain) (inside : InCalendar r.wall)
    (near : IsNear center r.wall) : z.instantOf r = .ok (c.instantOf r) := by
  obtain ⟨offset, stated, same⟩ := follows.offsetAt plain inside near
  exact map_ok.mpr ⟨offset, stated, by rw [same, ClockChange.instantOf]⟩

theorem ofUtc (follows : z.Follows c center) (inside : InCalendar utc) (near : IsNear center utc)
    (found : z.ofUtc utc = .ok r) : r.wall = utc + c.offsetFrom utc ∧ InCalendar r.wall := by
  obtain ⟨fold, shown⟩ := follows.shown utc inside near
  rw [found] at shown
  obtain ⟨wall, checked, same⟩ := map_ok.mp shown.symm
  obtain ⟨inside', rfl⟩ := checkWall_ok.mp checked
  rw [← same]
  exact ⟨rfl, inside'⟩

theorem toUtc (follows : z.Follows c center) (plain : c.IsPlain) (inside : InCalendar r.wall)
    (near : IsNear center r.wall) (converted : z.toUtc r = .ok utc) :
    utc = c.instantOf r ∧ (z ≠ .utc → InCalendar utc) := by
  have meant := follows.instantOf plain inside near
  cases z with
  | utc =>
    cases converted
    have same : r.wall - 0 * microsPerSecond = c.instantOf r := Except.ok.inj meant
    exact ⟨by omega, fun other => absurd rfl other⟩
  | fixed | table | yearly =>
    obtain ⟨instant, found, checked⟩ := bind_ok.mp converted
    obtain ⟨inside', rfl⟩ := checkWall_ok.mp checked
    exact ⟨Except.ok.inj (found.symm.trans meant), fun _ => inside'⟩

/-- The zone moves a reading as its change does. -/
theorem resolve (follows : z.Follows c r.wall) (plain : c.IsPlain) (inside : InCalendar r.wall)
    (resolved : z.resolve r = .ok moved) : moved = c.resolve r ∧ InCalendar moved.wall ∧
      (¬ c.Occurs r → InCalendar (r.wall - microsPerDay) ∧ InCalendar (r.wall + microsPerDay)) := by
  have near (time : Int) (late : r.wall - microsPerDay ≤ time)
      (early : time ≤ r.wall + microsPerDay) : IsNear r.wall time := by
    simp only [IsNear, microsPerDay, microsPerSecond] at *
    omega
  have center := IsNear.self r.wall
  -- It is enough to know whether the reading occurs, where it is left as it is.
  have left (occurs : c.Occurs r) (same : moved = r) : moved = c.resolve r ∧
      InCalendar moved.wall ∧ (¬ c.Occurs r →
        InCalendar (r.wall - microsPerDay) ∧ InCalendar (r.wall + microsPerDay)) := by
    rw [ClockChange.resolve, if_pos occurs, same]
    exact ⟨rfl, inside, fun never => absurd occurs never⟩
  rcases Zone.resolve_cases resolved with ⟨rfl, same⟩ | ⟨utc, back, other, converted, shown, rest⟩
  · have converted : Zone.utc.toUtc r = .ok r.wall := rfl
    have shown : Zone.utc.ofUtc r.wall = .ok ⟨r.wall, false⟩ := rfl
    obtain ⟨instant, -⟩ := follows.toUtc plain inside center converted
    obtain ⟨wall, -⟩ := follows.ofUtc inside center shown
    apply left _ same
    rw [ClockChange.Occurs, ← instant]
    rw [ClockChange.instantOf] at instant
    simp only at wall
    omega
  · obtain ⟨early, late⟩ := plain.offsetAt r
    obtain ⟨rfl, inside'⟩ := follows.toUtc plain inside center converted
    have near' : IsNear r.wall (c.instantOf r) :=
      near _ (by rw [ClockChange.instantOf]; omega) (by rw [ClockChange.instantOf]; omega)
    obtain ⟨wall, -⟩ := follows.ofUtc (inside' other) near' shown
    have occurs : back.wall = r.wall ↔ c.Occurs r := by
      rw [wall, ClockChange.Occurs, ClockChange.instantOf]
      omega
    rcases rest with ⟨same, unmoved⟩ | ⟨never, next, last, after, before, stated, stated', rest⟩
    · exact left (occurs.mp same) unmoved
    · rw [Ne, occurs] at never
      obtain ⟨_, found, after'⟩ := follows.offsetAt (r := ⟨_, false⟩) plain next
        (near _ (by simp only [microsPerDay, microsPerSecond]; omega) le_rfl)
      obtain ⟨_, found', before'⟩ := follows.offsetAt (r := ⟨_, false⟩) plain last
        (near _ le_rfl (by simp only [microsPerDay, microsPerSecond]; omega))
      cases stated.symm.trans found
      cases stated'.symm.trans found'
      obtain ⟨inside'', rfl⟩ := rest
      rw [ClockChange.resolve, if_neg never, ClockChange.gapAt, ← after', ← before', ← Int.sub_mul]
      exact ⟨rfl, inside'', fun _ => ⟨last, next⟩⟩

end Zone.Follows

namespace Zone
variable {z : Zone} {c : ClockChange} {wall gap utc : Int} {r : Reading}

/-- The clock goes over a wall time from one microsecond to the next, and leaves out as many in
all. -/
def Skips (z : Zone) (wall gap : Int) : Prop :=
  ∃ utc last next, InCalendar (utc - 1) ∧ InCalendar utc ∧
    z.ofUtc (utc - 1) = .ok last ∧ z.ofUtc utc = .ok next ∧
    last.wall < wall ∧ wall < next.wall ∧ next.wall = last.wall + 1 + gap

/-- A sound clock shows no wall time that is a day away. -/
theorem IsSound.ofUtc_near (sound : z.IsSound) (shown : z.ofUtc utc = .ok r) :
    utc - microsPerDay < r.wall ∧ r.wall < utc + microsPerDay := by
  obtain ⟨offset, wall, short, -⟩ := ofUtc_offset shown
  obtain ⟨early, late⟩ := (short sound).micros
  omega

theorem Skips.change (skips : z.Skips wall gap) (sound : z.IsSound) (follows : z.Follows c wall) :
    c.Skips wall ∧ gap = c.after - c.before := by
  obtain ⟨utc, last, next, inside, inside', shown, shown', passed, ahead, rfl'⟩ := skips
  have around := sound.ofUtc_near shown
  have around' := sound.ofUtc_near shown'
  obtain ⟨before, -⟩ := follows.ofUtc inside
    (by simp only [IsNear, microsPerDay, microsPerSecond] at *; omega) shown
  obtain ⟨after, -⟩ := follows.ofUtc inside'
    (by simp only [IsNear, microsPerDay, microsPerSecond] at *; omega) shown'
  have offset := c.offsetFrom_cases (utc - 1)
  have offset' := c.offsetFrom_cases utc
  -- The wall times of one offset follow on each other, so the change comes between the instants.
  have now : c.instant = utc := by omega
  refine ⟨⟨?_, ?_⟩, ?_⟩ <;> omega

end Zone

theorem ClockChange.Skips.zone {z : Zone} {c : ClockChange} {wall : Int} (skips : c.Skips wall)
    (follows : z.Follows c wall) (plain : c.IsPlain) (early : InCalendar (wall - microsPerDay))
    (late : InCalendar (wall + microsPerDay)) : z.Skips wall (c.after - c.before) := by
  obtain ⟨start, stop⟩ := skips
  obtain ⟨-, before, after, forward⟩ := plain
  obtain ⟨-, -, -, short⟩ := forward (by omega)
  have inside : InCalendar (c.instant - 1) := early.between late (by omega) (by omega)
  have inside' : InCalendar c.instant := early.between late (by omega) (by omega)
  obtain ⟨fold, shown⟩ := follows.shown _ inside
    (by simp only [IsNear, microsPerDay, microsPerSecond] at *; omega)
  obtain ⟨fold', shown'⟩ := follows.shown _ inside'
    (by simp only [IsNear, microsPerDay, microsPerSecond] at *; omega)
  have last : c.offsetFrom (c.instant - 1) = c.before := if_neg (by omega)
  have next : c.offsetFrom c.instant = c.after := if_pos le_rfl
  rw [last, (early.between late (by omega) (by omega) : InCalendar _).checked] at shown
  rw [next, (early.between late (by omega) (by omega) : InCalendar _).checked] at shown'
  exact ⟨c.instant, _, _, inside, inside', shown, shown', by simp only; omega, by simp only; omega,
    by simp only; omega⟩

end PortableSearch.Calendar
