import PortableSearch.Proofs.DateMath.Operations
import PortableSearch.Proofs.Request.Places

/-! One time zone reaches every part of a request that is compiled without a context. It is named
by the parameters of the request, or else by the default, and it is used by the date ranges, date
histograms and ranges of dates that name none themselves, however deep they stand. -/
namespace PortableSearch
open Calendar

namespace Context
open Shape

/-- The zone that a part goes by: its own, unless this says nothing, and else the shared one. -/
def zoneInEffect (own shared : Option String) : Option String :=
  if own = none ∨ own = some "" then shared else own

theorem zoneFor_eq (own shared : Option String) :
    zoneFor own shared = zoneInEffect own shared := by
  cases own with
  | none => rfl
  | some zone =>
    by_cases blank : zone = ""
    · subst blank
      rfl
    · simp [zoneFor, named?, zoneInEffect, blank]

/-- The text of a zone that is given as data. -/
def zoneText? : Value → Option String
  | .str s => some s
  | .bytes b => String.fromUTF8? b
  | _ => none

/-- The zone that all parts share: that of the first of two parameters that says something, or
else the default. -/
def sharedZone (params : Members) (fallback : Option String) : Option String :=
  match [params.get "timeZone", params.get "time_zone"].find? fun v => !v.isMissing with
  | some v => zoneText? v
  | none => fallback

theorem ofParams_eq (params : Members) (fallback : Option String) :
    ofParams params fallback .null =
      (Checked.within (.name "time_zone")
        ((FieldType.nullable .text).read .data (firstZone params fallback))).map fun v =>
          ⟨v.text?, none⟩ := by
  have now : (FieldType.nullable .moment).read .data .null = .ok .null := rfl
  simp only [ofParams, Request.contextType, readRecordFields, readFields, readField,
    FieldSpec.optional, List.lookup_cons, beq_self_eq_true, String.reduceBEq, now]
  cases Checked.within (.name "time_zone")
    ((FieldType.nullable .text).read .data (firstZone params fallback)) with
  | ok v => rfl
  | error faults => simp [Checked.both, Checked.within, Checked.faults, Except.map]

/-- The text of a zone is kept where it can be read at all. -/
theorem text_read {v w : Value} (read : (FieldType.nullable .text).read .data v = .ok w) :
    w.text? = zoneText? v := by
  cases v with
  | null | str =>
    cases read
    rfl
  | bytes b =>
    rw [zoneText?]
    cases decoded : String.fromUTF8? b with
    | none => simp [FieldType.read, readText, decoded, Except.map, Checked.ofExcept] at read
    | some s =>
      have taken : (FieldType.nullable .text).read .data (.bytes b) = .ok (.str s) := by
        simp [FieldType.read, readText, decoded, Except.map, Checked.ofExcept]
      cases read.symm.trans taken
      rfl
  | _ => cases read

theorem firstZone_text (params : Members) (fallback : Option String) :
    zoneText? (firstZone params fallback) = sharedZone params fallback := by
  cases camel : (params.get "timeZone").isMissing <;>
    cases snake : (params.get "time_zone").isMissing <;>
      simp [firstZone, sharedZone, camel, snake]
  cases fallback <;> rfl

/-- A context that is derived from parameters has no moment of its own. -/
theorem ofParams_ok {params : Members} {fallback : Option String} {c : Context}
    (derived : ofParams params fallback .null = .ok c) :
    c = ⟨sharedZone params fallback, none⟩ := by
  rw [ofParams_eq, map_ok] at derived
  obtain ⟨w, checked, rfl⟩ := derived
  have read : (FieldType.nullable .text).read .data (firstZone params fallback) = .ok w := by
    generalize (FieldType.nullable .text).read .data (firstZone params fallback) = outcome
      at checked
    cases outcome <;> cases checked
    rfl
  rw [text_read read, firstZone_text]

end Context

/-- A bound that is text is sent as the number that it means as date math. -/
def BoundSent (zone : Zone) (now : Moment) (bound sent : Option Value) : Prop :=
  ∀ text, bound = some (.str text) →
    ∃ millis, DateMath.evaluate zone now false text = .ok millis ∧ sent = some (.int millis)

/-- A span is sent with its bounds resolved. -/
def SpanSent (zone : Zone) (now : Moment) (span : Span) (sent : Value) : Prop :=
  ∃ ms, sent = .obj ms ∧ BoundSent zone now span.start (ms.lookup "from") ∧
    BoundSent zone now span.stop (ms.lookup "to")

theorem resolveBound_sent {zone : Zone} {now : Moment} {bound resolved : Option Value}
    (compiled : resolveBound? zone now bound = .ok resolved) :
    BoundSent zone now bound ((Value.ofOption id resolved).present?) := by
  rintro text rfl
  obtain ⟨v, number, rfl⟩ := map_ok.mp compiled
  rw [resolveBound] at number
  split at number
  next millis evaluated =>
    cases number
    exact ⟨millis, evaluated, rfl⟩
  next => cases number

theorem resolve_sent {zone : Zone} {now : Moment} {span resolved : Span}
    (compiled : span.resolve zone now = .ok resolved) : SpanSent zone now span resolved.body := by
  obtain ⟨start, first, rest⟩ := bind_ok.mp compiled
  obtain ⟨stop, second, made⟩ := bind_ok.mp rest
  cases made
  refine ⟨_, rfl, ?_, ?_⟩
  · rw [Members.lookup_compact (by simp)]
    exact resolveBound_sent first
  · rw [Members.lookup_compact (by simp)]
    exact resolveBound_sent second

namespace Request

/-- A zone reaches the parts of a request that use one. A zone that is none is left out. -/
structure ZoneReaches (shared : Option String) (now : Moment) (r : Request) (body : Value) :
    Prop where
  date_range : ∀ path field bounds own, r.Place path (.query (.dateRange field bounds own)) →
    ∃ ms, body.At path (.obj [("range", .obj [(field, .obj ms)])]) ∧
      ((∃ text, .expression text ∈ bounds.toList) →
        ms.lookup "time_zone" = (Context.zoneInEffect own shared).map .str) ∧
      ((∀ text, .expression text ∉ bounds.toList) → ms.lookup "time_zone" = none)
  date_histogram : ∀ path a field interval format offset own, r.Place path (.aggregation a) →
    a.body = .dateHistogram field interval format offset own →
    ∃ ms rest, body.At path (.obj (("date_histogram", .obj ms) :: rest)) ∧
      ms.lookup "time_zone" = (Context.zoneInEffect own shared).map .str
  date_ranges : ∀ path a field spans format own, r.Place path (.aggregation a) →
    a.body = .dateRanges field spans format own →
    ∃ zone ms rest sent, Zone.named (Context.zoneInEffect own shared) = .ok zone ∧
      body.At path (.obj (("date_range", .obj ms) :: rest)) ∧
      ms.lookup "ranges" = some (.list sent) ∧ List.Forall₂ (SpanSent zone now) spans sent

variable {setting : Aggregation.Setting} {v : Value}

theorem anyExpression_iff {bounds : Bounds Instant} :
    bounds.toList.any Instant.isExpression = true ↔
      ∃ text, .expression text ∈ bounds.toList := by
  rw [List.any_eq_true]
  constructor
  · rintro ⟨bound, inside, math⟩
    cases bound with
    | expression text => exact ⟨text, inside⟩
    | _ => cases math
  · rintro ⟨text, inside⟩
    exact ⟨_, inside, rfl⟩

theorem dateRange_zone {field : String} {bounds : Bounds Instant} {own : Option String}
    (compiled : Node.CompilesTo setting (.query (.dateRange field bounds own)) v) :
    ∃ ms, v = .obj [("range", .obj [(field, .obj ms)])] ∧
      ms.lookup "time_zone" = (Query.zoneOfRange bounds own setting.timeZone).map .str := by
  cases compiled with
  | query compiled =>
    cases compiled
    refine ⟨_, rfl, ?_⟩
    rw [Members.lookup_compact (by simp [Engine.Clause.rangeMembers])]
    cases Query.zoneOfRange bounds own setting.timeZone <;> rfl

theorem dateHistogram_zone {a : Aggregation} {field interval : String}
    {format offset own : Option String}
    (compiled : Node.CompilesTo setting (.aggregation a) v)
    (body : a.body = .dateHistogram field interval format offset own) :
    ∃ ms rest, v = .obj (("date_histogram", .obj ms) :: rest) ∧
      ms.lookup "time_zone" = (Context.zoneInEffect own setting.timeZone).map .str := by
  cases compiled with
  | aggregation compiled =>
    obtain ⟨nested, content, -, made, written⟩ := Aggregation.entry_ok.mp compiled
    rw [body, Aggregation.Body.compile] at made
    split at made
    next => cases made
    next kind _ =>
      cases made
      cases written
      refine ⟨_, _, rfl, ?_⟩
      rw [Aggregation.lookup_withMinDocCount _ _ (by simp), ← Context.zoneFor_eq]
      cases kind <;> simp [Aggregation.texts, List.lookup_append, Members.lookup_optional,
        Aggregation.fieldMember, Aggregation.IntervalKind.member, List.lookup_cons]

theorem dateRanges_zone {a : Aggregation} {field : String} {spans : List Span}
    {format own : Option String} (compiled : Node.CompilesTo setting (.aggregation a) v)
    (body : a.body = .dateRanges field spans format own) :
    ∃ zone ms rest sent, Zone.named (Context.zoneInEffect own setting.timeZone) = .ok zone ∧
      v = .obj (("date_range", .obj ms) :: rest) ∧ ms.lookup "ranges" = some (.list sent) ∧
      List.Forall₂ (SpanSent zone setting.anchor) spans sent := by
  cases compiled with
  | aggregation compiled =>
    obtain ⟨zone, resolved, ms, rest, known, each, rfl, ranges⟩ :=
      Aggregation.entry_dateRanges compiled body
    refine ⟨zone, ms, rest, resolved.map Span.body, ?_, rfl, ranges, ?_⟩
    · rw [← Context.zoneFor_eq]
      exact known
    · rw [List.forall₂_map_right_iff]
      exact (mapM_ok_iff.mp each).imp fun _ _ => resolve_sent

/-- One zone reaches every part of a request that is compiled without a context and in which no
two siblings have one key. -/
theorem compile_zone_reaches {current : Moment} {fallbackZone : Option String} {r : Request}
    {request : Engine.Request} (distinct : Aggregation.DistinctKeys r.aggregations)
    (compiled : r.compile current fallbackZone none = .ok request) :
    ZoneReaches (Context.sharedZone r.params fallbackZone) current r request.body := by
  obtain ⟨context, derived, whole⟩ := bind_ok.mp compiled
  have shared := Context.ofParams_ok (mapError_ok.mp derived)
  subst shared
  constructor
  case date_range =>
    intro path field bounds own place
    obtain ⟨v, found, made⟩ := compileIn_place distinct (mapError_ok.mp whole) place
    obtain ⟨ms, rfl, zone⟩ := dateRange_zone made
    rw [Query.zoneOfRange, Context.zoneFor_eq] at zone
    refine ⟨ms, found, fun math => ?_, fun plain => ?_⟩
    · rw [zone, if_pos (anyExpression_iff.mpr math)]
      rfl
    · rw [zone, if_neg fun math => (anyExpression_iff.mp math).elim plain]
      rfl
  case date_histogram =>
    intro path a field interval format offset own place body
    obtain ⟨v, found, made⟩ := compileIn_place distinct (mapError_ok.mp whole) place
    obtain ⟨ms, rest, rfl, zone⟩ := dateHistogram_zone made body
    exact ⟨ms, rest, found, zone⟩
  case date_ranges =>
    intro path a field spans format own place body
    obtain ⟨v, found, made⟩ := compileIn_place distinct (mapError_ok.mp whole) place
    obtain ⟨zone, ms, rest, sent, known, rfl, listed, each⟩ := dateRanges_zone made body
    exact ⟨zone, ms, rest, sent, known, found, listed, each⟩

theorem day_two_hours_ahead : DateMath.evaluate (.fixed 7200) ⟨1416306615000000, some 0⟩ false
    "now/d" = .ok 1416261600000 := by
  have written : DateMath.Writes (DateMath.trimRight "/d".toList) [.round .day] := .cons rfl .nil
  have expression : "now/d" = "now" ++ "/d" := rfl
  rw [expression, DateMath.evaluate_now written]
  rfl

/-- The first parameter says nothing, so that the second names the zone: it reaches a query of a
bucket, whose own zone says nothing either, and the ranges of dates within the buckets. -/
theorem bucket_zone_reaches :
    let now : Moment := ⟨1416306615000000, some 0⟩
    let recent : Query := .dateRange "at" ⟨some (.expression "now-1d"), none, none, none⟩ (some "")
    let days : Aggregation :=
      .mk "days" (.dateRanges "at" [⟨none, some (.str "now/d"), none⟩] none none) none []
    let r : Request :=
      ⟨0, none, none, [.mk "by" (.filters [("new", .any [recent])]) none [days]], [], [], none,
        [("timeZone", .str ""), ("time_zone", .str "+02:00")]⟩
    Aggregation.DistinctKeys r.aggregations ∧
    ∃ request, r.compile now (some "UTC") none = .ok request ∧
      (∃ ms, request.body.At [.name "aggs", .name "by", .name "filters", .name "filters",
          .name "new", .name "bool", .name "should", .index 0]
          (.obj [("range", .obj [("at", .obj ms)])]) ∧
        ms.lookup "time_zone" = some (.str "+02:00")) ∧
      ∃ ms rest sent, request.body.At [.name "aggs", .name "by", .name "aggs", .name "days"]
          (.obj (("date_range", .obj ms) :: rest)) ∧
        ms.lookup "ranges" = some (.list [.obj sent]) ∧
        sent.lookup "from" = some (.int 1416261600000) := by
  intro now recent days r
  have distinct : Aggregation.DistinctKeys r.aggregations := by
    intro siblings inside
    rcases inside with _ | ⟨first, inside⟩
    · decide
    cases List.mem_singleton.mp first
    rcases inside with _ | ⟨second, inside⟩
    · decide
    cases List.mem_singleton.mp second
    rcases inside with _ | ⟨third, _⟩
    · decide
    · cases third
  have named : Zone.named (some "+02:00") = .ok (.fixed 7200) := rfl
  have compiled : ∃ request, r.compile now (some "UTC") none = .ok request := by
    let setting : Aggregation.Setting := ⟨some "+02:00", now⟩
    have resolved : [⟨none, some (.str "now/d"), none⟩].mapM (Span.resolve (.fixed 7200) now) =
        .ok [⟨none, some (.int 1416261600000), none⟩] := by
      rw [List.mapM_cons, Span.resolve, resolveBound?, resolveBound, day_two_hours_ahead]
      rfl
    have content : days.body.compile setting "days" = _ :=
      Aggregation.compile_dateRanges "days" "at" _ none named
    rw [resolved] at content
    have inner : Aggregation.entry setting days = .ok _ :=
      Aggregation.entry_ok.mpr ⟨none, _, rfl, content, rfl⟩
    have below : ∃ nested, Aggregation.compileChildren setting [days] = .ok nested := by
      rw [Aggregation.compileChildren_eq, Aggregation.compileAll_singleton, inner]
      exact ⟨_, rfl⟩
    obtain ⟨nested, below⟩ := below
    have all : ∃ ms, Aggregation.compileAll setting r.aggregations = .ok ms := by
      rw [Aggregation.compileAll_singleton, Aggregation.entry_ok.mpr ⟨nested, _, below, rfl, rfl⟩]
      exact ⟨_, rfl⟩
    obtain ⟨ms, all⟩ := all
    have whole : r.compileIn now ⟨some "+02:00", none⟩ = .ok _ :=
      bind_ok.mpr ⟨none, rfl, bind_ok.mpr ⟨ms, all, rfl⟩⟩
    exact ⟨_, bind_ok.mpr ⟨_, rfl, mapError_ok.mpr whole⟩⟩
  obtain ⟨request, compiled⟩ := compiled
  have reached := compile_zone_reaches distinct compiled
  refine ⟨distinct, request, compiled, ?_, ?_⟩
  · have within : Query.Place (.any [recent]) [.name "bool", .name "should", .index 0] recent :=
      .combined rfl rfl .self
    have place : r.Place _ (.query recent) :=
      .filter (.listed List.mem_cons_self) rfl List.mem_cons_self within
    obtain ⟨ms, found, math, -⟩ := reached.date_range _ _ _ _ place
    exact ⟨ms, found, math ⟨_, List.mem_cons_self⟩⟩
  · have place : r.Place _ (.aggregation days) :=
      .aggregation (.nested List.mem_cons_self (.listed List.mem_cons_self))
    obtain ⟨zone, ms, rest, sent, known, found, listed, each⟩ :=
      reached.date_ranges _ _ _ _ _ _ place rfl
    cases known.symm.trans named
    cases each with
    | cons span none =>
      cases none
      obtain ⟨sent, rfl, start, -⟩ := span
      obtain ⟨millis, evaluated, there⟩ := start _ rfl
      cases evaluated.symm.trans day_two_hours_ahead
      exact ⟨ms, rest, sent, found, listed, there⟩

end Request

end PortableSearch
