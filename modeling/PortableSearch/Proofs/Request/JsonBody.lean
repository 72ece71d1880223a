import PortableSearch.Proofs.Value.JsonValue
import PortableSearch.Proofs.Request.BodyShape

/-! Bodies that can be written as JSON. A request may have moments among the bounds of its ranges,
and JSON values in all other places. Date ranges write moments as texts and as numbers; other ranges
send their bounds as they are. So the body is JSON where no range of the other kinds has a moment,
and only there. -/
namespace PortableSearch
open Shape (Step)

theorem Members.mem_compact {ms : Members} {m : String × Value} (inside : m ∈ ms)
    (set : m.2 ≠ .null) : m ∈ ms.compact := by
  refine List.mem_filter.mpr ⟨inside, ?_⟩
  split
  · contradiction
  · rfl

/-- What is inside a JSON value is JSON. -/
theorem Value.At.json {v w : Value} {path : List Step} (found : v.At path w)
    (json : v.isJson = true) : w.isJson = true := by
  induction found with
  | here => exact json
  | member inside _ ih => exact ih (Value.isJson_obj.mp json _ inside)
  | item there _ ih => exact ih (Value.isJson_list.mp json _ (List.mem_of_getElem? there))

namespace Query
open Engine (Clause)

mutual

/-- Each part of a query has a place in it. -/
theorem exists_place {p : Query} (q : Query) (part : p ∈ q.parts) : ∃ path, q.Place path p := by
  cases q with
  | all of | any of | none of =>
    rcases List.mem_cons.mp part with rfl | below
    · exact ⟨[], .self⟩
    · obtain ⟨i, inner, found, path, place⟩ := exists_item of below
      exact ⟨_, .combined rfl found place⟩
  | _ =>
    cases List.mem_singleton.mp part
    exact ⟨[], .self⟩

theorem exists_item {p : Query} (qs : List Query) (part : p ∈ partsOfEach qs) :
    ∃ (i : Nat) (q : Query), qs[i]? = some q ∧ ∃ path, q.Place path p := by
  cases qs with
  | nil => cases part
  | cons q qs =>
    rw [partsOfEach, List.mem_append] at part
    rcases part with here | later
    · exact ⟨0, q, rfl, exists_place q here⟩
    · obtain ⟨i, r, found, there⟩ := exists_item qs later
      exact ⟨i + 1, r, found, there⟩

end

/-- A bound of a range that is set stands in its object. -/
theorem range_found {field : String} {bounds : Bounds Value} {timeZone : Option String} {v : Value}
    (set : v ∈ bounds.toList.filterMap Value.present?) :
    ∃ path, (Clause.range field bounds Option.none Option.none timeZone).body.At path v := by
  obtain ⟨w, listed, there⟩ := List.mem_filterMap.mp set
  obtain ⟨rfl, filled⟩ := Value.present?_eq_some.mp there
  obtain ⟨o, own, same⟩ := List.mem_filterMap.mp listed
  obtain rfl : o = some w := same
  have named : ∃ name, (name, w) ∈ Clause.rangeMembers bounds Option.none Option.none timeZone := by
    simp only [List.mem_cons, List.not_mem_nil, or_false] at own
    rcases own with here | here | here | here
    · exact ⟨"gte", by simp [Clause.rangeMembers, ← here, Value.ofOption]⟩
    · exact ⟨"gt", by simp [Clause.rangeMembers, ← here, Value.ofOption]⟩
    · exact ⟨"lte", by simp [Clause.rangeMembers, ← here, Value.ofOption]⟩
    · exact ⟨"lt", by simp [Clause.rangeMembers, ← here, Value.ofOption]⟩
  obtain ⟨name, inside⟩ := named
  refine ⟨[.name "range", .name field, .name name], ?_⟩
  exact .member List.mem_cons_self (.member List.mem_cons_self
    (.member (Members.mem_compact inside filled) .here))

end Query

namespace Aggregation

/-- The spans of a body. -/
def Body.spans : Body → List Span
  | .ranges _ spans | .dateRanges _ spans _ _ | .geoDistance _ _ _ spans => spans
  | _ => []

/-- The spans of a body that are sent with their bounds as they are. -/
def Body.sentSpans : Body → List Span
  | .ranges _ spans | .geoDistance _ _ _ spans => spans
  | _ => []

/-- What a body takes over beside the bounds of spans: what stands for missing values, and a native
body that is not given as bytes. -/
def Body.data : Body → List Value
  | .terms _ _ _ fallback => fallback.toList
  | .native (.bytes _) => []
  | .native value => [value]
  | _ => []

/-- A bound that is set stands in the object of its span. -/
theorem span_found {s : Span} {v : Value} (set : v ∈ s.callerValues) :
    ∃ path, s.body.At path v := by
  obtain ⟨w, listed, there⟩ := List.mem_filterMap.mp set
  obtain ⟨rfl, filled⟩ := Value.present?_eq_some.mp there
  rw [Span.bounds, List.mem_append, Option.mem_toList, Option.mem_toList] at listed
  rcases listed with start | stop
  · refine ⟨[.name "from"], .member (Members.mem_compact ?_ filled) .here⟩
    simp [Option.mem_def.mp start, Value.ofOption]
  · refine ⟨[.name "to"], .member (Members.mem_compact ?_ filled) .here⟩
    simp [Option.mem_def.mp stop, Value.ofOption]

/-- A span that is sent as it is stands in the entry of its aggregation. -/
theorem sentSpan_found {setting : Setting} {a : Aggregation} {e : Members} {s : Span}
    (compiled : entry setting a = .ok e) (sent : s ∈ a.body.sentSpans) :
    ∃ path, (Value.obj e).At path s.body := by
  obtain ⟨nested, content, -, own, made⟩ := entry_ok.mp compiled
  have listed : ∃ type members, content = .typed type members ∧
      spanList a.body.sentSpans ∈ members := by
    cases body : a.body with
    | ranges field spans | geoDistance field origin unit spans =>
      rw [body] at own
      cases own
      exact ⟨_, _, rfl, by simp [Body.sentSpans]⟩
    | _ =>
      rw [body] at sent
      cases sent
  obtain ⟨type, members, rfl, inside⟩ := listed
  cases made
  obtain ⟨i, found⟩ := List.getElem?_of_mem (List.mem_map_of_mem (f := Span.body) sent)
  have there := mem_withMinDocCount a.minDocCount inside (by simp [spanList])
  exact ⟨_, .member List.mem_cons_self (.member there (.item found .here))⟩

end Aggregation

namespace Aggregation

/-- What a native body is read as is JSON if the body is, or if it is given as bytes. -/
theorem native_json {body : Body} {value : Value} {ms : Members} (native : body = .native value)
    (json : ∀ v ∈ body.data, v.isJson = true) (read : Native.read value = .ok ms) :
    (Value.obj ms).isJson = true := by
  subst native
  have text {cs : List Char} (read : Native.readText cs = .ok ms) :
      (Value.obj ms).isJson = true := by
    rw [Native.readText] at read
    split at read
    next found =>
      cases read
      exact Value.Parser.parse?_json_value found
    next => cases read
    next => cases read
  cases value with
  | obj members =>
    cases read
    exact json _ List.mem_cons_self
  | str s => exact text read
  | bytes b =>
    rw [Native.read] at read
    split at read
    next cs decoded => exact text read
    next => cases read
  | record kinds given fields others => cases json _ List.mem_cons_self
  | _ => cases read

end Aggregation

namespace Request

/-- The bounds of the ranges of a request that are set, those of date ranges among them. -/
def bounds (r : Request) : List Value :=
  r.queries.flatMap Query.callerValues ++ (Aggregation.partsOfEach r.aggregations).flatMap
    fun a => a.body.spans.flatMap Span.callerValues

/-- What a request takes over beside bounds: what stands for missing values, and native bodies that
are not given as bytes. -/
def data (r : Request) : List Value :=
  (Aggregation.partsOfEach r.aggregations).flatMap fun a => a.body.data

/-- A bound that is sent as it is: that of a range other than a date range, in a query or in an
aggregation that no sibling replaces. -/
inductive SendsBound (r : Request) : Value → Prop
  | query {path : List Step} {q : Query} {v : Value} :
    r.Writes path q → v ∈ q.callerValues → SendsBound r v
  | span {path : List Step} {a : Aggregation} {s : Span} {v : Value} :
    Aggregation.Standing r.aggregations path a → s ∈ a.body.sentSpans → v ∈ s.callerValues →
    SendsBound r v

variable {r : Request} {current : Calendar.Moment} {context : Context} {v : Value}

/-- A bound that is sent as it is stands in the body. -/
theorem bound_found {request : Engine.Request}
    (compiled : r.compileIn current context = .ok request) (sent : r.SendsBound v) :
    ∃ path, request.body.At path v := by
  cases sent with
  | @query path q _ written own =>
    obtain ⟨clause, whole, found⟩ := written_found compiled written
    cases q with
    | range field bounds =>
      cases whole
      obtain ⟨inner, deeper⟩ := Query.range_found own
      exact ⟨_, found.append deeper⟩
    | _ => cases own
  | span standing inside own =>
    obtain ⟨e, entry, found⟩ := Aggregation.entry_standing standing (compileIn_ok compiled).2
    obtain ⟨path, listed⟩ := Aggregation.sentSpan_found entry inside
    obtain ⟨inner, deeper⟩ := Aggregation.span_found own
    exact ⟨_, (body_standing standing found).append (listed.append deeper)⟩

/-- A bound of a query that is written is JSON if it is no moment. -/
theorem queryBound_json (given : ∀ v ∈ r.bounds, v.isJson = true ∨ ∃ m, v = .moment m)
    (none : ∀ m, ¬ r.SendsBound (.moment m)) {path : List Step} {q : Query}
    (written : r.Writes path q) (own : v ∈ q.callerValues) : v.isJson = true := by
  have inside : v ∈ r.bounds :=
    List.mem_append_left _ (List.mem_flatMap.mpr ⟨q, written.mem_queries, own⟩)
  rcases given v inside with json | ⟨m, rfl⟩
  · exact json
  · exact absurd (.query written own) (none m)

/-- What an aggregation sends that no sibling replaces is JSON if it is no moment. -/
theorem sentValue_json (data : ∀ v ∈ r.data, v.isJson = true)
    (given : ∀ v ∈ r.bounds, v.isJson = true ∨ ∃ m, v = .moment m)
    (none : ∀ m, ¬ r.SendsBound (.moment m)) {path : List Step} {a : Aggregation}
    (standing : Aggregation.Standing r.aggregations path a) (sent : v ∈ a.body.sentValues) :
    v.isJson = true := by
  have own : ∀ v ∈ a.body.data, v.isJson = true := fun v inside =>
    data v (List.mem_flatMap.mpr ⟨a, standing.mem_parts, inside⟩)
  have bound : ∀ s ∈ a.body.spans, ∀ v ∈ s.callerValues, v.isJson = true ∨ ∃ m, v = .moment m :=
    fun s listed v set => given v (List.mem_append_right _ (List.mem_flatMap.mpr
      ⟨a, standing.mem_parts, List.mem_flatMap.mpr ⟨s, listed, set⟩⟩))
  cases body : a.body with
  | terms field size order fallback =>
    rw [body] at own sent
    exact own v sent
  | ranges field spans | geoDistance field origin unit spans =>
    rw [body] at sent bound
    obtain ⟨s, listed, set⟩ := List.mem_flatMap.mp sent
    rcases bound s listed v set with json | ⟨m, rfl⟩
    · exact json
    · have inside : s ∈ a.body.sentSpans := body ▸ listed
      exact absurd (.span standing inside set) (none m)
  | dateRanges field spans format timeZone =>
    rw [body] at sent bound
    obtain ⟨there, other⟩ := List.mem_filter.mp sent
    obtain ⟨s, listed, set⟩ := List.mem_flatMap.mp there
    rcases bound s listed v set with json | ⟨m, rfl⟩
    · exact json
    · cases other
  | filters queries =>
    rw [body] at sent
    obtain ⟨⟨label, q⟩, listed, there⟩ := List.mem_flatMap.mp sent
    obtain ⟨p, part, set⟩ := List.mem_flatMap.mp there
    obtain ⟨inner, place⟩ := Query.exists_place q part
    exact queryBound_json given none (.filter standing body listed place) set
  | native value =>
    rw [body] at sent
    obtain ⟨ms, read, rfl⟩ := List.mem_map.mp sent
    refine Aggregation.native_json body own ?_
    cases value : Aggregation.Native.read value with
    | ok members =>
      rw [value] at read
      cases List.mem_singleton.mp read
      rfl
    | error defect =>
      rw [value] at read
      cases read
  | _ =>
    rw [body] at sent
    cases sent

/-- Where a request has JSON values, and moments only among the bounds of its ranges, its body is
JSON just where no moment is among the bounds that are sent as they are. -/
theorem compile_json {fallbackZone : Option String} {given : Option Context}
    {request : Engine.Request} (data : ∀ v ∈ r.data, v.isJson = true)
    (bounds : ∀ v ∈ r.bounds, v.isJson = true ∨ ∃ m, v = .moment m)
    (compiled : r.compile current fallbackZone given = .ok request) :
    request.body.isJson = true ↔ ∀ m, ¬ r.SendsBound (.moment m) := by
  obtain ⟨context, -, whole⟩ := bind_ok.mp compiled
  have inContext : r.compileIn current context = .ok request := mapError_ok.mp whole
  constructor
  · intro json m sent
    obtain ⟨path, found⟩ := bound_found inContext sent
    cases found.json json
  · intro none
    refine compileIn_holds Value.isJson_partwise (fun q asked p part v own => ?_)
      (fun path a standing v sent => sentValue_json data bounds none standing sent) inContext
    obtain ⟨path, place⟩ := Query.exists_place q part
    exact queryBound_json bounds none (.query asked place) own

/-- Moments bound a date range in a query, one in an aggregation, and a range that a sibling of its
key replaces: none of them is sent as it is. -/
theorem date_ranges_json :
    let now : Calendar.Moment := ⟨1416306600000000, some 0⟩
    let recent : Query := .all [.dateRange "t" ⟨some (.moment now), none, none, none⟩ none]
    let replaced : Aggregation := .mk "by" (.ranges "t" [⟨none, some (.moment now), none⟩]) none []
    let own : Aggregation := .mk "own" (.native (.obj [("global", .obj [])])) none []
    let days : Aggregation :=
      .mk "by" (.dateRanges "t" [⟨none, none, some (.moment now)⟩] none none) none [own]
    let r : Request := ⟨0, none, some recent, [replaced, days], [], [], none, []⟩
    (∀ v ∈ r.data, v.isJson = true) ∧
    (∀ v ∈ r.bounds, v.isJson = true ∨ ∃ m, v = .moment m) ∧ r.bounds ≠ [] ∧
    ∃ request, r.compile now none (some Context.empty) = .ok request ∧
      request.body.isJson = true ∧ ∀ m, ¬ r.SendsBound (.moment m) := by
  intro now recent replaced own days r
  have data : ∀ v ∈ r.data, v.isJson = true := List.forall_mem_singleton.mpr rfl
  have bounds : ∀ v ∈ r.bounds, v.isJson = true ∨ ∃ m, v = .moment m := by
    have all : r.bounds = [.moment now, .moment now] := rfl
    rw [all]
    intro v inside
    cases List.eq_of_mem_replicate (n := 2) inside
    exact .inr ⟨now, rfl⟩
  have compiled : r.compile now none (some Context.empty) = .ok _ := rfl
  exact ⟨data, bounds, List.cons_ne_nil _ _, _, compiled, rfl,
    (compile_json data bounds compiled).mp rfl⟩

/-- A moment that bounds another range is sent as it is: in a query, and in an aggregation by ranges
or by distances. -/
theorem range_moments_not_json :
    let now : Calendar.Moment := ⟨1416306600000000, some 0⟩
    let span : Span := ⟨none, some (.moment now), none⟩
    let asking (query : Option Query) (bodies : List Aggregation.Body) : Request :=
      ⟨0, none, query, bodies.map fun body => .mk "by" body none [], [], [], none, []⟩
    ∀ r ∈ [asking (some (.range "t" ⟨some (.moment now), none, none, none⟩)) [],
      asking none [.ranges "t" [span]], asking none [.geoDistance "t" ⟨-122.4, 37.8⟩ none [span]]],
    r.data = [] ∧ r.bounds = [.moment now] ∧
    ∃ request, r.compile now none (some Context.empty) = .ok request ∧
      request.body.isJson = false := by
  intro now span asking r inside
  simp only [List.mem_cons, List.not_mem_nil, or_false] at inside
  rcases inside with rfl | rfl | rfl
  · exact ⟨rfl, rfl, _, rfl, rfl⟩
  · exact ⟨rfl, rfl, _, rfl, rfl⟩
  · exact ⟨rfl, rfl, _, rfl, rfl⟩

end Request

end PortableSearch
