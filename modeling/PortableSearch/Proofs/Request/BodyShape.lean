import PortableSearch.Proofs.Nulls
import PortableSearch.Proofs.Request.TakenOver

/-! The shape of the body that a request is compiled to. Paging is always there, and each other
member where the request has something for it, in one order. No null is written, and the object of
a query that combines others has one list, which is not empty. -/
namespace PortableSearch
open Shape (Step)

namespace Query
open Engine (Clause)

theorem parts_combined {q : Query} {list : String} {of : List Query}
    (combined : q.combined? = some (list, of)) : q.parts = q :: partsOfEach of := by
  cases q with
  | all | any | none =>
    cases combined
    rfl
  | _ => cases combined

theorem self_mem_parts (q : Query) : q ∈ q.parts := by
  cases q <;> exact List.mem_cons_self

theorem mem_partsOfEach {q p : Query} {qs : List Query} (inside : q ∈ qs) (part : p ∈ q.parts) :
    p ∈ partsOfEach qs := by
  induction qs with
  | nil => cases inside
  | cons first qs ih =>
    rw [partsOfEach, List.mem_append]
    rcases List.mem_cons.mp inside with rfl | later
    · exact .inl part
    · exact .inr (ih later)

theorem Place.mem_parts {q p : Query} {path : List Step} (place : q.Place path p) :
    p ∈ q.parts := by
  induction place with
  | self => exact self_mem_parts _
  | combined combined found _ ih =>
    rw [parts_combined combined]
    exact List.mem_cons_of_mem _ (mem_partsOfEach (List.mem_of_getElem? found) ih)

/-- The boolean object of a query has one list, and this is not empty. -/
theorem compile_oneList {timeZone : Option String} {q : Query} {clause : Clause} {ms : Members}
    (filled : ∀ list of, q.combined? = some (list, of) → of ≠ [])
    (compiled : q.compile timeZone = .ok clause) (bool : clause.body = .obj [("bool", .obj ms)]) :
    ∃ list first rest, ms = [(list, .list (first :: rest))] := by
  cases combines : q.combined? with
  | some combined =>
    obtain ⟨list, of⟩ := combined
    obtain ⟨clauses, each, body⟩ := combined_body compiled combines
    rw [body] at bool
    cases bool
    rw [compileAll_eq] at each
    cases of with
    | nil => exact absurd rfl (filled list [] combines)
    | cons part of =>
      obtain ⟨first, rest, -, -, rfl⟩ := List.forall₂_cons_left_iff.mp (mapM_ok_iff.mp each)
      exact ⟨list, first.body, Clause.bodies rest, rfl⟩
  | none =>
    cases q with
    | all | any | none => cases combines
    | presence field expected =>
      cases expected with
      | true =>
        cases compiled
        simp [Clause.body, Clause.single] at bool
      | false =>
        cases compiled
        cases bool
        exact ⟨"must_not", _, [], rfl⟩
    | other kind => cases compiled
    | _ =>
      cases compiled
      simp [Clause.body, Clause.single, Clause.onField] at bool

end Query

namespace Aggregation

/-- The queries that name the buckets of a body. -/
def Body.queries : Body → List Query
  | .filters queries => queries.map Prod.snd
  | _ => []

theorem self_mem_parts (a : Aggregation) : a ∈ a.parts := by
  obtain ⟨key, body, count, children⟩ := a
  rw [parts]
  exact List.mem_append_right _ List.mem_cons_self

theorem mem_partsOfEach {a p : Aggregation} {as : List Aggregation} (inside : a ∈ as)
    (part : p ∈ a.parts) : p ∈ partsOfEach as := by
  induction as with
  | nil => cases inside
  | cons first as ih =>
    rw [partsOfEach, List.mem_append]
    rcases List.mem_cons.mp inside with rfl | later
    · exact .inl part
    · exact .inr (ih later)

theorem Standing.mem_parts {as : List Aggregation} {a : Aggregation} {path : List Step}
    (standing : Standing as path a) : a ∈ partsOfEach as := by
  induction standing with
  | listed last => exact mem_partsOfEach last.mem (self_mem_parts _)
  | @nested _ outer _ _ last _ ih =>
    refine mem_partsOfEach last.mem ?_
    obtain ⟨key, body, count, children⟩ := outer
    rw [parts]
    exact List.mem_append_left _ ih

end Aggregation

namespace Request

/-- All queries of a request, those that name buckets among them. -/
def queries (r : Request) : List Query :=
  r.query.toList.flatMap Query.parts ++
    ((Aggregation.partsOfEach r.aggregations).flatMap fun a => a.body.queries).flatMap Query.parts

/-- The values that a request takes over from its caller as they are. -/
def callerValues (r : Request) : List Value :=
  (r.query.toList.flatMap Query.parts).flatMap Query.callerValues ++
    (Aggregation.partsOfEach r.aggregations).flatMap fun a => a.body.callerValues

/-- The names of the members of the body, in order. -/
def memberNames (r : Request) : List String :=
  ["from", "size"] ++ (if r.query.isSome then ["query"] else []) ++
    (if r.fields = [] then [] else ["_source"]) ++
    (if r.aggregations = [] then [] else ["aggs"]) ++ (if r.orders = [] then [] else ["sort"]) ++
    (if r.storedFields.getD [] = [] then [] else ["stored_fields"])

/-- A query that is written into the body, and the path to its object: no later sibling has the key
of an aggregation that the path leads through. -/
inductive Writes (r : Request) : List Step → Query → Prop
  | query {q p : Query} {path : List Step} :
    r.query = some q → q.Place path p → Writes r (.name "query" :: path) p
  | filter {a : Aggregation} {queries : List (String × Query)} {label : String} {q p : Query}
    {path inner : List Step} :
    Aggregation.Standing r.aggregations path a → a.body = .filters queries →
    (label, q) ∈ queries → q.Place inner p →
    Writes r (.name "aggs" :: path ++ .name "filters" :: .name "filters" :: .name label :: inner) p

/-- The shape of the body of a request in a time zone. -/
structure HasShape (timeZone : Option String) (r : Request) (body : Value) : Prop where
  members : ∃ ms : Members, body = .obj ms ∧ ms.names = r.memberNames
  null_free : body.isNullFree = true
  one_list : ∀ path q, r.Writes path q → ∃ clause, q.compile timeZone = .ok clause ∧
    body.At path clause.body ∧ ∀ ms, clause.body = .obj [("bool", .obj ms)] →
      ∃ list first rest, ms = [(list, .list (first :: rest))]

variable {r : Request} {current : Calendar.Moment} {context : Context}

theorem Writes.mem_queries {path : List Step} {q : Query} (written : r.Writes path q) :
    q ∈ r.queries := by
  rw [queries, List.mem_append]
  cases written with
  | query asked within =>
    refine .inl (List.mem_flatMap.mpr ⟨_, ?_, within.mem_parts⟩)
    rw [asked]
    exact List.mem_cons_self
  | @filter a named label q _ _ _ standing filters inside within =>
    refine .inr (List.mem_flatMap.mpr ⟨q, ?_, within.mem_parts⟩)
    refine List.mem_flatMap.mpr ⟨a, standing.mem_parts, ?_⟩
    rw [filters]
    exact List.mem_map.mpr ⟨(label, q), inside, rfl⟩

theorem written_found {request : Engine.Request} {path : List Step} {q : Query}
    (compiled : r.compileIn current context = .ok request) (written : r.Writes path q) :
    ∃ clause, q.compile context.timeZone = .ok clause ∧ request.body.At path clause.body := by
  obtain ⟨query, aggregations⟩ := compileIn_ok compiled
  cases written with
  | query asked within =>
    rw [asked, compileQuery] at query
    split at query
    next clause whole =>
      obtain ⟨part, own, found⟩ := Query.compile_place within whole
      exact ⟨part, own, body_query (Except.ok.inj query).symm found⟩
    next => cases query
  | filter standing filters inside within =>
    obtain ⟨e, own, found⟩ := Aggregation.entry_standing standing aggregations
    obtain ⟨clause, whole, labelled⟩ := Aggregation.filter_place filters inside own
    obtain ⟨part, compiled, below⟩ := Query.compile_place within whole
    have entry := body_standing standing found
    exact ⟨part, compiled, entry.append (labelled.append below)⟩

/-! The members of the body -/

theorem names_listMember (name : String) (vs : List Value) :
    (Engine.Request.listMember name vs).names = if vs = [] then [] else [name] := by
  cases vs <;> rfl

theorem names_objectMember (name : String) (ms : Members) :
    (Engine.Request.objectMember name ms).names = if ms = [] then [] else [name] := by
  cases ms <;> rfl

theorem ascending_eq_nil {texts : List String} : Text.ascending texts = [] ↔ texts = [] := by
  simp only [List.eq_nil_iff_forall_not_mem, Text.mem_ascending]

theorem compileAll_eq_nil {setting : Aggregation.Setting} {as : List Aggregation} {ms : Members}
    (compiled : Aggregation.compileAll setting as = .ok ms) : ms = [] ↔ as = [] := by
  have names := Aggregation.compileAll_names compiled
  constructor
  · rintro rfl
    cases as with
    | nil => rfl
    | cons a as => simp [List.eraseDups_cons] at names
  · rintro rfl
    exact List.map_eq_nil_iff.mp names

theorem compileIn_names {request : Engine.Request}
    (compiled : r.compileIn current context = .ok request) :
    request.members.names = r.memberNames := by
  obtain ⟨query, first, rest⟩ := bind_ok.mp compiled
  obtain ⟨aggregations, second, made⟩ := bind_ok.mp rest
  cases made
  have asked : Members.names (Members.optional "query" (query.map Engine.Clause.body)) =
      if r.query.isSome then ["query"] else [] := by
    cases none : r.query with
    | none =>
      rw [none] at first
      cases first
      rfl
    | some q =>
      rw [none, compileQuery] at first
      split at first
      · cases first
        rfl
      · cases first
  simp only [Engine.Request.members, memberNames, Members.names_append, asked, names_listMember,
    names_objectMember, List.map_eq_nil_iff, ascending_eq_nil, compileAll_eq_nil second]
  rfl

theorem compileIn_nullFree {request : Engine.Request}
    (free : ∀ v ∈ r.callerValues, v.isNullFree = true)
    (compiled : r.compileIn current context = .ok request) : request.body.isNullFree = true := by
  rw [callerValues, List.forall_mem_append] at free
  obtain ⟨asked, computed⟩ := free
  refine compileIn_holds Value.isNullFree_partwise (fun q there p part v own => ?_)
    (fun path a standing v sent => ?_) compiled
  · refine asked v (List.mem_flatMap.mpr ⟨p, List.mem_flatMap.mpr ⟨q, ?_, part⟩, own⟩)
    rw [there]
    exact List.mem_cons_self
  · exact computed v (List.mem_flatMap.mpr
      ⟨a, standing.mem_parts, Aggregation.Body.sentValues_subset a.body sent⟩)

/-- The body of a request has its shape: where each query that combines others combines some, and
no null stands in the values that the request takes over. -/
theorem compile_has_shape {fallbackZone : Option String} {given : Option Context}
    {request : Engine.Request}
    (filled : ∀ q ∈ r.queries, ∀ list of, q.combined? = some (list, of) → of ≠ [])
    (nullFree : ∀ v ∈ r.callerValues, v.isNullFree = true)
    (compiled : r.compile current fallbackZone given = .ok request) :
    ∃ context, r.contextFor fallbackZone given = .ok context ∧
      HasShape context.timeZone r request.body := by
  obtain ⟨context, derived, whole⟩ := bind_ok.mp compiled
  have inContext : r.compileIn current context = .ok request := mapError_ok.mp whole
  refine ⟨context, mapError_ok.mp derived, ⟨_, rfl, compileIn_names inContext⟩,
    compileIn_nullFree nullFree inContext, fun path q written => ?_⟩
  obtain ⟨clause, own, found⟩ := written_found inContext written
  exact ⟨clause, own, found, fun ms bool =>
    Query.compile_oneList (filled q written.mem_queries) own bool⟩

/-- Two siblings have one key, and a filter stands within a native body that names an aggregation of
its own: the first sibling and a bound that is null are not written. -/
theorem filter_in_native_has_shape :
    let q : Query := .any [.presence "a" false, .range "b" ⟨some (.int 1), some .null, none, none⟩]
    let filters : Aggregation := .mk "by" (.filters [("new", .all [.presence "c" true])]) (some 1) []
    let own : Members := [("global", .obj []), ("aggs", .obj [("own", .obj [])])]
    let r : Request := ⟨0, none, some q, [.mk "top" (.stats "d") none [],
      .mk "top" (.native (.obj own)) none [filters]], [], ["b", "a", "b"], none, []⟩
    (∀ q ∈ r.queries, ∀ list of, q.combined? = some (list, of) → of ≠ []) ∧
    (∀ v ∈ r.callerValues, v.isNullFree = true) ∧
    ∃ request, r.compile ⟨0, some 0⟩ none (some Context.empty) = .ok request ∧
      request.members.names = ["from", "size", "query", "_source", "aggs"] ∧
      request.body.isNullFree = true ∧
      ∃ list first rest, request.body.At [.name "aggs", .name "top", .name "aggs", .name "by",
        .name "filters", .name "filters", .name "new"]
        (.obj [("bool", .obj [(list, .list (first :: rest))])]) := by
  intro q filters own r
  have filled : ∀ q ∈ r.queries, ∀ list of, q.combined? = some (list, of) → of ≠ [] := by
    rintro p inside list of combined rfl
    have all : r.queries = [q, .presence "a" false,
        .range "b" ⟨some (.int 1), some .null, none, none⟩, .all [.presence "c" true],
        .presence "c" true] := rfl
    rw [all] at inside
    simp only [List.mem_cons, List.not_mem_nil, or_false] at inside
    rcases inside with rfl | rfl | rfl | rfl | rfl <;> cases combined
  have free : ∀ v ∈ r.callerValues, v.isNullFree = true := by
    have all : r.callerValues = [.int 1, .obj own] := rfl
    rw [all]
    exact List.forall_mem_cons.mpr ⟨rfl, List.forall_mem_singleton.mpr rfl⟩
  refine ⟨filled, free, _, rfl, ?_⟩
  have compiled : r.compile ⟨0, some 0⟩ none (some Context.empty) = .ok _ := rfl
  obtain ⟨context, derived, shape⟩ := compile_has_shape filled free compiled
  refine ⟨rfl, shape.null_free, ?_⟩
  have last : Aggregation.IsLast r.aggregations (.mk "top" (.native (.obj own)) none [filters]) :=
    ⟨[_], [], rfl, List.forall_mem_nil _⟩
  have standing : Aggregation.Standing r.aggregations
      [.name "top", .name "aggs", .name "by"] filters :=
    .nested last (.listed ⟨[], [], rfl, List.forall_mem_nil _⟩)
  have written : r.Writes _ (.all [.presence "c" true]) :=
    .filter standing rfl List.mem_cons_self .self
  obtain ⟨clause, own, found, oneList⟩ := shape.one_list _ _ written
  cases own
  obtain ⟨list, first, rest, same⟩ := oneList _ rfl
  refine ⟨list, first, rest, ?_⟩
  rw [← same]
  exact found

end Request

end PortableSearch
