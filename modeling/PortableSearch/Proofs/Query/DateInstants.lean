import PortableSearch.Calendar.Zone.Names
import PortableSearch.Proofs.Calendar.IsoRoundTrip
import PortableSearch.Proofs.Query.ReadBack

/-! The instants that the engine reads in the bounds of a date range. A text with an offset means an
instant by itself. One without an offset is read in the time zone of the range, which is there as
soon as any of the bounds is an expression. -/
namespace PortableSearch
open Calendar

/-- The bounds under the names that they are written under. -/
def Bounds.sides {α : Type} (b : Bounds α) : List (String × Option α) :=
  [("gte", b.gte), ("gt", b.gt), ("lte", b.lte), ("lt", b.lt)]

namespace Engine

/-- Which instant time zones have at a wall time, if any. -/
abbrev ZoneReading := String → Int → Option Int

/-- The instant of a date and time: by its offset or, where it has none, in a time zone, and in UTC
without either. -/
def momentIn (zones : ZoneReading) (timeZone : Option String) (m : Moment) : Option Int :=
  match m.offset, timeZone with
  | none, some zone => zones zone m.wall
  | _, _ => some m.utc

/-- The instant in a bound of the range on a field. -/
def rangeInstant? (zones : ZoneReading) (object : Value) (field bound : String) : Option Int :=
  let range := ((object.fields.get "range").fields.get field).fields
  (range.text? bound).bind fun text =>
    (Moment.ofIso? text).bind (momentIn zones (range.text? "time_zone"))

variable {bounds : Bounds Instant} {own shared : Option String} {side : String} {wall : Int}
  {offset : Option Int}

theorem range_fields (field : String) (bounds : Bounds Value) (timeZone : Option String) :
    (((Clause.range field bounds none none timeZone).body.fields.get "range").fields.get
      field).fields = (Clause.rangeMembers bounds none none timeZone).compact := by
  simp [Clause.body, Clause.onField, Clause.single, Value.fields, Members.get_cons]

/-- The texts of a range: its time zone, and under each name that of the bound. -/
theorem range_texts (bounds : Bounds Instant) (timeZone : Option String) :
    let range := (Clause.rangeMembers (bounds.map Instant.value) none none timeZone).compact
    range.text? "time_zone" = timeZone ∧ ∀ side bound, (side, bound) ∈ bounds.sides →
      range.text? side = bound.bind fun i => i.value.text? := by
  intro range
  have distinct :
      (Clause.rangeMembers (bounds.map Instant.value) none none timeZone).names.Nodup := by
    simp [Clause.rangeMembers, Members.names]
  have text (b : Option Instant) :
      (Value.ofOption id (b.map Instant.value)).text? = b.bind fun i => i.value.text? := by
    cases b <;> rfl
  simp only [range, Members.text?, Members.get_compact distinct]
  refine ⟨?_, fun side bound placed => ?_⟩
  · simp [Clause.rangeMembers, Members.get_cons, NormalQuery.text?_texts]
  · simp only [Bounds.sides, List.mem_cons, Prod.mk.injEq, List.not_mem_nil, or_false] at placed
    rcases placed with ⟨rfl, rfl⟩ | ⟨rfl, rfl⟩ | ⟨rfl, rfl⟩ | ⟨rfl, rfl⟩ <;>
      simp [Clause.rangeMembers, Members.get_cons, Bounds.map, text]

/-- A moment in a date range is read as the instant that it is exactly if it has an offset, or no
bound of the range is an expression, or neither the range nor the request names a time zone, or that
time zone has the instant at its wall time. -/
theorem date_bound_read (field : String) (own shared : Option String)
    (placed : (side, some (.moment ⟨wall, offset⟩)) ∈ bounds.sides) (inside : InCalendar wall)
    (short : ∀ seconds ∈ offset, IsShort seconds) :
    ∃ clause, (Query.dateRange field bounds own).compile shared = .ok clause ∧
      ∀ zones, rangeInstant? zones clause.body field side = some (Moment.utc ⟨wall, offset⟩) ↔
        (offset = none → bounds.toList.any Instant.isExpression = true →
          ∀ zone, Context.zoneFor own shared = some zone → zones zone wall = some wall) := by
  refine ⟨_, rfl, fun zones => ?_⟩
  obtain ⟨sent, text⟩ := range_texts bounds (Query.zoneOfRange bounds own shared)
  have read : rangeInstant? zones (Clause.range field (bounds.map Instant.value) none none
      (Query.zoneOfRange bounds own shared)).body field side =
        momentIn zones (Query.zoneOfRange bounds own shared) ⟨wall, offset⟩ := by
    simp only [rangeInstant?, range_fields, sent, text side _ placed, Option.bind_some,
      Instant.value, Value.text?, Moment.ofIso?_iso inside short]
  rw [read, Query.zoneOfRange]
  cases offset with
  | some seconds =>
    constructor
    · intro _ unsaid
      cases unsaid
    · exact fun _ => rfl
  | none =>
    have utc : Moment.utc ⟨wall, none⟩ = wall := by simp [Moment.utc]
    rw [utc]
    split
    -- Beside an expression the time zone is sent, and is that of the bound too.
    · rename_i math
      cases Context.zoneFor own shared with
      | none =>
        constructor
        · intro _ _ _ zone named
          cases named
        · exact fun _ => congrArg some utc
      | some zone =>
        constructor
        · intro same _ _ zone' named
          cases named
          exact same
        · exact fun same => same rfl math zone rfl
    · rename_i plain
      exact ⟨fun _ _ math => absurd math plain, fun _ => congrArg some utc⟩

/-- A moment with an offset beside an expression, and one without beside a number. -/
theorem moments_read :
    let half : Bounds Instant :=
      ⟨none, some (.moment ⟨1416306600000001, some 19800⟩), some (.expression "now"), none⟩
    let plain : Bounds Instant :=
      ⟨some (.moment ⟨1416306600000000, none⟩), none, none, some (.int 0)⟩
    (∃ clause, (Query.dateRange "t" half (some "+02:00")).compile none = .ok clause ∧
      ∀ zones, rangeInstant? zones clause.body "t" "gt" = some 1416286800000001) ∧
    ∃ clause, (Query.dateRange "t" plain (some "+02:00")).compile none = .ok clause ∧
      ∀ zones, rangeInstant? zones clause.body "t" "gte" = some 1416306600000000 := by
  intro half plain
  have placed : ("gt", some (.moment ⟨1416306600000001, some 19800⟩)) ∈ half.sides :=
    .tail _ (.head _)
  have placed' : ("gte", some (.moment ⟨1416306600000000, none⟩)) ∈ plain.sides := .head _
  have short : ∀ seconds ∈ some 19800, IsShort seconds := by
    rintro _ ⟨⟩
    exact (by decide : (19800 : Int).natAbs < 86400)
  obtain ⟨clause, compiled, read⟩ :=
    date_bound_read "t" (some "+02:00") none placed (by decide) short
  obtain ⟨clause', compiled', read'⟩ :=
    date_bound_read "t" (some "+02:00") none placed' (by decide) nofun
  exact ⟨⟨clause, compiled, fun zones => (read zones).mpr nofun⟩,
    clause', compiled', fun zones => (read' zones).mpr fun _ => nofun⟩

/-- Beside an expression a moment without an offset is read in the time zone of the range, here two
hours early. -/
theorem moment_shifted :
    let plain : Moment := ⟨1416306600000000, none⟩
    let zones : ZoneReading := fun name wall =>
      (Zone.named (some name)).toOption.bind fun zone => (zone.instantOf ⟨wall, false⟩).toOption
    ∃ clause, (Query.dateRange "t" ⟨some (.moment plain), none, none, some (.expression "now")⟩
        (some "+02:00")).compile none = .ok clause ∧
      rangeInstant? zones clause.body "t" "gte" = some 1416299400000000 ∧
      plain.utc = 1416306600000000 := by
  intro plain zones
  exact ⟨_, rfl, by decide +kernel, rfl⟩

end Engine

end PortableSearch
