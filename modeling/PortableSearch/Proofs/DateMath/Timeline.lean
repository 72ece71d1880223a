import Mathlib.Algebra.BigOperators.Group.List.Basic
import Mathlib.Data.List.Infix
import PortableSearch.Proofs.DateMath.RoundDown
import PortableSearch.Proofs.DateMath.RoundTrip

/-! Shifts on the timeline. Hours, minutes and seconds move an anchor by their length, whatever its
zone and its wall time, also where the wall time occurs twice. On a clock that can be read back a
run of such shifts has a value exactly where it passes through instants that the clock shows, and
its value depends on nothing but the sum of their lengths. -/
namespace PortableSearch.Calendar

/-- The clock shows a wall time of the calendar at an instant of the calendar. -/
def Zone.HasTime (z : Zone) (utc : Int) : Prop := InCalendar utc ∧ ∃ r, z.ofUtc utc = .ok r

namespace Operation

/-- A shift by hours, minutes or seconds. -/
def isTimed : Operation → Bool
  | .shift _ unit => !unit.isCalendar
  | .round _ => false

/-- The milliseconds by which such a shift leads ahead. -/
def millis : Operation → Int
  | .shift amount unit => amount * unit.millis
  | .round _ => 0

end Operation

namespace DateMath

/-- The milliseconds by which a run of shifts leads ahead. -/
def totalMillis (ops : List Operation) : Int := (ops.map Operation.millis).sum

@[simp] theorem totalMillis_nil : totalMillis [] = 0 := rfl

@[simp] theorem totalMillis_cons (op : Operation) (ops : List Operation) :
    totalMillis (op :: ops) = op.millis + totalMillis ops := rfl

theorem totalMillis_perm {ops ops' : List Operation} (perm : ops.Perm ops') :
    totalMillis ops = totalMillis ops' :=
  (perm.map _).sum_eq

/-- An anchor shows the clock of its zone at an instant. -/
structure Anchor.StandsAt (a : Anchor) (utc : Int) : Prop where
  inside : InCalendar utc
  shown : a.zone.ofUtc utc = .ok a.reading

section Run
variable {zone : Zone} {a last : Anchor} {utc : Int} {roundUp : Bool} {op : Operation}
  {ops : List Operation}

theorem Anchor.StandsAt.hasTime (stands : a.StandsAt utc) : a.zone.HasTime utc :=
  ⟨stands.inside, _, stands.shown⟩

theorem Anchor.StandsAt.unique (stands : a.StandsAt utc) (stands' : last.StandsAt utc)
    (same : last.zone = a.zone) : a = last := by
  obtain ⟨zone, reading⟩ := a
  obtain ⟨-, shown⟩ := stands
  obtain ⟨-, shown'⟩ := stands'
  rw [same, shown] at shown'
  rw [Anchor.mk.injEq]
  exact ⟨same.symm, Except.ok.inj shown'⟩

theorem Anchor.StandsAt.epochMillis (stands : a.StandsAt utc) (back : a.zone.ReadsBack) :
    a.epochMillis = .ok (utc / 1000) :=
  map_ok.mpr ⟨_, Zone.instantOf_toUtc (back utc _ stands.inside stands.shown), rfl⟩

theorem shift_timed {amount : Int} {unit : TimeUnit} (timed : unit.isCalendar = false) :
    a.shift amount unit = a.zone.toUtc a.reading >>= fun utc =>
      checkWall (utc + amount * unit.micros) >>= fun later =>
        a.zone.ofUtc later >>= fun r => .ok ⟨a.zone, r⟩ := by
  cases unit with
  | year | month | week | day => cases timed
  | hour | minute | second => rfl

/-- A shift on the timeline leads to the instant that is so much later, and nowhere else. -/
theorem apply_timed (back : a.zone.ReadsBack) (stands : a.StandsAt utc) (timed : op.isTimed) :
    a.apply roundUp op = .ok last ↔
      last.zone = a.zone ∧ last.StandsAt (utc + 1000 * op.millis) := by
  have there : a.zone.toUtc a.reading = .ok utc := back utc _ stands.inside stands.shown
  cases op with
  | round unit => cases timed
  | shift amount unit =>
    have fixed : unit.isCalendar = false := by simpa [Operation.isTimed] using timed
    have span : 1000 * (Operation.shift amount unit).millis = amount * unit.micros := by
      cases unit <;> cases fixed <;>
        simp only [Operation.millis, TimeUnit.millis, TimeUnit.micros, microsPerSecond] <;> omega
    show a.shift amount unit = .ok last ↔ _
    simp only [shift_timed fixed, span, there, bind_ok, Except.ok.injEq, checkWall_ok]
    constructor
    · rintro ⟨_, rfl, _, ⟨inside, rfl⟩, r, shown, rfl⟩
      exact ⟨rfl, inside, shown⟩
    · rintro ⟨same, inside, shown⟩
      rw [same] at shown
      exact ⟨_, rfl, _, ⟨inside, rfl⟩, _, shown, by rw [← same]⟩

/-- A run of shifts passes through the instants that its parts lead to. -/
theorem applyAll_timed (back : a.zone.ReadsBack) (stands : a.StandsAt utc)
    (timed : ∀ op ∈ ops, op.isTimed) : a.applyAll roundUp ops = .ok last ↔
      (∀ passed, passed <+: ops → a.zone.HasTime (utc + 1000 * totalMillis passed)) ∧
        last.zone = a.zone ∧ last.StandsAt (utc + 1000 * totalMillis ops) := by
  induction ops generalizing a utc with
  | nil =>
    rw [Anchor.applyAll, List.foldlM_nil, totalMillis_nil, Int.mul_zero, Int.add_zero]
    constructor
    · intro done
      cases done
      refine ⟨?_, rfl, stands⟩
      intro passed here
      obtain rfl := List.prefix_nil.mp here
      rw [totalMillis_nil, Int.mul_zero, Int.add_zero]
      exact stands.hasTime
    · rintro ⟨-, same, stands'⟩
      exact congrArg _ (stands.unique stands' same)
  | cons op ops ih =>
    obtain ⟨now, rest⟩ := List.forall_mem_cons.mp timed
    have later (passed : List Operation) : utc + 1000 * totalMillis (op :: passed) =
        utc + 1000 * op.millis + 1000 * totalMillis passed := by
      rw [totalMillis_cons]
      omega
    rw [Anchor.applyAll, List.foldlM_cons, bind_ok]
    constructor
    · rintro ⟨next, moved, applied⟩
      obtain ⟨same, stands'⟩ := (apply_timed back stands now).mp moved
      obtain ⟨through, same', arrived⟩ := (ih (same ▸ back) stands' rest).mp applied
      refine ⟨?_, same'.trans same, later ops ▸ arrived⟩
      intro passed here
      rcases List.prefix_cons_iff.mp here with rfl | ⟨front, rfl, here'⟩
      · rw [totalMillis_nil, Int.mul_zero, Int.add_zero]
        exact stands.hasTime
      · rw [later, ← same]
        exact through front here'
    · rintro ⟨through, same, arrived⟩
      obtain ⟨inside, reading, shown⟩ := through [op] (by simp)
      rw [later, totalMillis_nil, Int.mul_zero, Int.add_zero] at inside shown
      have stands' : Anchor.StandsAt ⟨a.zone, reading⟩ (utc + 1000 * op.millis) := ⟨inside, shown⟩
      have moved : a.apply roundUp op = .ok ⟨a.zone, reading⟩ :=
        (apply_timed back stands now).mpr ⟨rfl, stands'⟩
      rw [later] at arrived
      refine ⟨_, moved, (ih (a := ⟨a.zone, reading⟩) back stands' rest).mpr ⟨?_, same, arrived⟩⟩
      intro passed here
      rw [← later]
      exact through _ (List.cons_prefix_cons.mpr ⟨rfl, here⟩)

end Run

/-- A text that writes shifts on the timeline, for a clock that can be read back. -/
structure OnTimeline (zone : Zone) (math : String) (ops : List Operation) : Prop where
  back : zone.ReadsBack
  written : Writes (trimRight math.toList) ops
  timed : ∀ op ∈ ops, op.isTimed

/-- Such a text has a value exactly where its shifts pass through times of the calendar. -/
theorem OnTimeline.evaluate_ok {zone : Zone} {math : String} {ops : List Operation}
    (travels : OnTimeline zone math ops) (now : Moment) (roundUp : Bool) (millis : Int) :
    evaluate zone now roundUp ("now" ++ math) = .ok millis ↔
      (∀ passed, passed <+: ops → zone.HasTime (now.utc + 1000 * totalMillis passed)) ∧
        millis = now.epochMillis + totalMillis ops := by
  have sum : (now.utc + 1000 * totalMillis ops) / 1000 = now.epochMillis + totalMillis ops := by
    rw [Moment.epochMillis]
    omega
  rw [evaluate_now travels.written, mapError_ok, bind_ok, ← sum]
  constructor
  · rintro ⟨a, reached, valued⟩
    obtain ⟨last, applied, found⟩ := bind_ok.mp valued
    obtain ⟨inside, shown, rfl⟩ := anchorAt_ok reached
    have stands : a.StandsAt now.utc := ⟨inside, shown⟩
    obtain ⟨through, same, arrived⟩ := (applyAll_timed travels.back stands travels.timed).mp applied
    rw [arrived.epochMillis (same ▸ travels.back)] at found
    exact ⟨through, (Except.ok.inj found).symm⟩
  · rintro ⟨through, rfl⟩
    obtain ⟨inside, reading, shown⟩ := through [] List.nil_prefix
    obtain ⟨inside', reading', shown'⟩ := through ops List.prefix_rfl
    rw [totalMillis_nil, Int.mul_zero, Int.add_zero] at inside shown
    have stands : Anchor.StandsAt ⟨zone, reading⟩ now.utc := ⟨inside, shown⟩
    have arrived : Anchor.StandsAt ⟨zone, reading'⟩ (now.utc + 1000 * totalMillis ops) :=
      ⟨inside', shown'⟩
    have reached : anchorAt zone now = .ok ⟨zone, reading⟩ :=
      bind_ok.mpr ⟨_, inside.checked, bind_ok.mpr ⟨_, shown, rfl⟩⟩
    have applied : Anchor.applyAll roundUp ⟨zone, reading⟩ ops = .ok ⟨zone, reading'⟩ :=
      (applyAll_timed travels.back stands travels.timed).mpr ⟨through, rfl, arrived⟩
    exact ⟨_, reached, bind_ok.mpr ⟨_, applied, arrived.epochMillis travels.back⟩⟩

/-- Shifts by hours, minutes and seconds ignore the zone. They have a value exactly where they pass
through times of the calendar, and it is that of the anchor with the sum of the shifts, so that it
is the same in every zone, in every order and for every other way to write the same span. -/
theorem evaluate_on_timeline {zone : Zone} {math : String} {ops : List Operation}
    (travels : OnTimeline zone math ops) (now : Moment) (roundUp : Bool) :
    let value := evaluate zone now roundUp ("now" ++ math)
    (∀ millis, value = .ok millis ↔
      (∀ passed, passed <+: ops → zone.HasTime (now.utc + 1000 * totalMillis passed)) ∧
        millis = now.epochMillis + totalMillis ops) ∧
    ∀ zone' math' ops' roundUp', OnTimeline zone' math' ops' →
      ops'.Perm ops ∨ totalMillis ops' = totalMillis ops →
      ∀ millis millis', value = .ok millis →
        evaluate zone' now roundUp' ("now" ++ math') = .ok millis' → millis' = millis := by
  intro value
  refine ⟨travels.evaluate_ok now roundUp, ?_⟩
  intro zone' math' ops' roundUp' travels' alike millis millis' found found'
  obtain ⟨-, rfl⟩ := (travels.evaluate_ok now roundUp _).mp found
  obtain ⟨-, rfl⟩ := (travels'.evaluate_ok now roundUp' _).mp found'
  have same : totalMillis ops' = totalMillis ops := by
    rcases alike with perm | same
    · exact totalMillis_perm perm
    · exact same
  rw [same]

/-- The clock of Paris from one winter to the next. It was set back by an hour at three o'clock of
2014-10-26. -/
def parisTable : ZoneTable where
  before := 3600
  standard := 3600
  transitions := [⟨1382835600, 3600, 3600⟩, ⟨1396141200, 3600, 7200⟩, ⟨1414285200, 3600, 3600⟩]

theorem paris_spaced : parisTable.IsSpaced where
  sound := ⟨by simp [IsShort, parisTable], by simp [IsShort, parisTable],
    by simp [IsShort, parisTable]⟩
  apart := by simp [parisTable]
  lead := by simp [IsShort, parisTable]
  forward := by decide +kernel

theorem paris_readsBack : (Zone.table parisTable).ReadsBack :=
  paris_spaced.readsBack (by unfold ZoneTable.FallsBackPlainly; decide +kernel)

/-- From the first half past two of that night over the second one and back, and the same span on a
clock that is never changed. -/
theorem minutes_over_repeated_hour :
    let zone : Zone := .table parisTable
    let now : Moment := ⟨1414283400000000, some 0⟩
    let ops : List Operation := [.shift 1 .hour, .shift (-90) .minute, .shift 2700 .second]
    let ops' : List Operation := [.shift 15 .minute]
    OnTimeline zone "+1H-90m+2700s" ops ∧ OnTimeline (.fixed 19800) "+15m" ops' ∧
    (∀ passed, passed <+: ops → zone.HasTime (now.utc + 1000 * totalMillis passed)) ∧
    evaluate zone now true ("now" ++ "+1H-90m+2700s") = .ok (now.epochMillis + 900000) ∧
    evaluate (.fixed 19800) now false ("now" ++ "+15m") = .ok (now.epochMillis + 900000) := by
  intro zone now ops ops'
  have travels : OnTimeline zone "+1H-90m+2700s" ops :=
    ⟨paris_readsBack, .cons rfl (.cons rfl (.cons rfl .nil)), by decide⟩
  have travels' : OnTimeline (.fixed 19800) "+15m" ops' :=
    ⟨(Zone.HasOffset.fixed (by decide)).readsBack, .cons rfl .nil, by decide⟩
  have through (passed : List Operation) (here : passed <+: ops) :
      zone.HasTime (now.utc + 1000 * totalMillis passed) := by
    have part : passed ∈ ops.inits := (List.mem_inits _ _).mpr here
    simp only [ops, List.inits, List.map, List.mem_cons, List.not_mem_nil, or_false] at part
    rcases part with rfl | rfl | rfl | rfl
    · exact ⟨by decide +kernel, ⟨1414290600000000, false⟩, by decide +kernel⟩
    · exact ⟨by decide +kernel, ⟨1414290600000000, true⟩, by decide +kernel⟩
    · exact ⟨by decide +kernel, ⟨1414288800000000, false⟩, by decide +kernel⟩
    · exact ⟨by decide +kernel, ⟨1414291500000000, false⟩, by decide +kernel⟩
  obtain ⟨value, alike⟩ := evaluate_on_timeline travels now true
  have found := (value _).mpr ⟨through, rfl⟩
  have found' : evaluate (.fixed 19800) now false ("now" ++ "+15m") = .ok 1414284300000 := by
    rw [evaluate_now travels'.written]
    decide +kernel
  have same := alike _ _ _ _ travels' (.inr rfl) _ _ found found'
  exact ⟨travels, travels', through, found, found'.trans (congrArg _ same)⟩

end DateMath

end PortableSearch.Calendar
