import PortableSearch.Proofs.Aggregation.Composition
import PortableSearch.Proofs.Aggregation.Nesting
import PortableSearch.Proofs.Query.Combined
import PortableSearch.Proofs.Request.FirstFault

/-! Where the parts of a request stand in its body. A query stands in the lists of boolean objects,
an aggregation under its key and under those of the aggregations that it is nested in, and the
query of a bucket under its label. What a part is compiled to is found there, provided that no later
sibling has the key of an aggregation that the path leads through. A native body may have a name
twice, so that a path need not lead to one value only. -/
namespace PortableSearch
open Shape (Step)

/-- The value is inside another, at the end of a path of names and indexes. -/
inductive Value.At : Value → List Step → Value → Prop
  | here {v : Value} : At v [] v
  | member {ms : Members} {name : String} {v w : Value} {path : List Step} :
    (name, v) ∈ ms → At v path w → At (.obj ms) (.name name :: path) w
  | item {vs : List Value} {i : Nat} {v w : Value} {path : List Step} :
    vs[i]? = some v → At v path w → At (.list vs) (.index i :: path) w

theorem Value.At.append {u v w : Value} {first second : List Step} (outer : u.At first v)
    (inner : v.At second w) : u.At (first ++ second) w := by
  induction outer with
  | here => exact inner
  | member inside _ ih => exact .member inside (ih inner)
  | item found _ ih => exact .item found (ih inner)

/-- What is found in an object by a name is found in one that has further members. -/
theorem Value.At.mono {ms more : Members} {name : String} {path : List Step} {v : Value}
    (found : (Value.obj ms).At (.name name :: path) v) (further : ms ⊆ more) :
    (Value.obj more).At (.name name :: path) v := by
  cases found with
  | member inside rest => exact .member (further inside) rest

namespace Query
open Engine (Clause)

/-- A query inside another, and the path to it in the object of the other. -/
inductive Place : Query → List Step → Query → Prop
  | self {q : Query} : Place q [] q
  | combined {q part p : Query} {list : String} {of : List Query} {i : Nat} {path : List Step} :
    q.combined? = some (list, of) → of[i]? = some part → Place part path p →
    Place q (.name "bool" :: .name list :: .index i :: path) p

variable {timeZone : Option String}

/-- By induction on the place. -/
theorem compile_place {q p : Query} {path : List Step} (place : q.Place path p) {clause : Clause}
    (compiled : q.compile timeZone = .ok clause) :
    ∃ part, p.compile timeZone = .ok part ∧ clause.body.At path part.body := by
  induction place generalizing clause with
  | self => exact ⟨clause, compiled, .here⟩
  | @combined _ _ _ _ _ i _ combined found _ ih =>
    obtain ⟨clauses, each, body⟩ := combined_body compiled combined
    rw [compileAll_eq] at each
    obtain ⟨own, ownCompiled, there⟩ := mapM_ok_getElem? each found
    obtain ⟨inner, innerCompiled, inside⟩ := ih ownCompiled
    refine ⟨inner, innerCompiled, ?_⟩
    have item : (Clause.bodies clauses)[i]? = some own.body := by simp [bodies_eq, there]
    have filled : (Clause.bodies clauses).isEmpty = false := by
      rw [List.isEmpty_eq_false_iff]
      exact List.ne_nil_of_mem (List.mem_of_getElem? item)
    rw [body, Clause.clauseList, filled]
    exact .member List.mem_cons_self (.member List.mem_cons_self (.item item inside))

end Query

namespace Aggregation

/-- No two siblings have one key, however deep they are nested. -/
def DistinctKeys (as : List Aggregation) : Prop :=
  ∀ siblings, Siblings as siblings → (siblings.map key).Nodup

/-- An aggregation among others or nested in one of them, and the path to its entry. -/
inductive Place : List Aggregation → List Step → Aggregation → Prop
  | listed {as : List Aggregation} {a : Aggregation} : a ∈ as → Place as [.name a.key] a
  | nested {as : List Aggregation} {a b : Aggregation} {path : List Step} :
    a ∈ as → Place a.children path b → Place as (.name a.key :: .name "aggs" :: path) b

variable {setting : Setting} {as : List Aggregation} {a : Aggregation}

/-- A sibling whose key no later one has. -/
def IsLast (as : List Aggregation) (a : Aggregation) : Prop :=
  ∃ before after, as = before ++ a :: after ∧ ∀ b ∈ after, b.key ≠ a.key

/-- An aggregation whose entry is not replaced by that of a sibling, nor are those of the
aggregations that it is nested in. -/
inductive Standing : List Aggregation → List Step → Aggregation → Prop
  | listed {as : List Aggregation} {a : Aggregation} : IsLast as a → Standing as [.name a.key] a
  | nested {as : List Aggregation} {a b : Aggregation} {path : List Step} :
    IsLast as a → Standing a.children path b →
    Standing as (.name a.key :: .name "aggs" :: path) b

theorem IsLast.of_distinct (distinct : (as.map key).Nodup) (inside : a ∈ as) : IsLast as a := by
  obtain ⟨before, after, rfl⟩ := List.append_of_mem inside
  refine ⟨before, after, rfl, fun b later same => ?_⟩
  rw [List.map_append, List.map_cons] at distinct
  have fresh := (List.nodup_cons.mp (List.nodup_append.mp distinct).2.1).1
  exact fresh (List.mem_map.mpr ⟨b, later, same⟩)

theorem Place.standing {path : List Step} (place : Place as path a) (distinct : DistinctKeys as) :
    Standing as path a := by
  induction place with
  | listed inside => exact .listed (.of_distinct (distinct _ .here) inside)
  | nested inside _ ih =>
    exact .nested (.of_distinct (distinct _ .here) inside)
      (ih fun siblings below => distinct siblings (.within inside below))

theorem IsLast.entry {ms : Members} (last : IsLast as a) (compiled : compileAll setting as = .ok ms) :
    ∃ e, Aggregation.entry setting a = .ok e ∧ (a.key, .obj e) ∈ ms := by
  obtain ⟨before, after, rfl, later⟩ := last
  obtain ⟨e, own, found⟩ := lookup_last compiled later
  exact ⟨e, own, Members.mem_of_lookup found⟩

/-- The entry of an aggregation with children has theirs, also where a native body names more. -/
theorem entry_nests {e ns : Members} (filled : a.children ≠ []) (compiled : entry setting a = .ok e)
    (children : compileAll setting a.children = .ok ns) :
    ∃ ms, ("aggs", .obj ms) ∈ e ∧ ns ⊆ ms := by
  obtain ⟨nested, content, below, -, made⟩ := entry_ok.mp compiled
  have all : nested = some ns := by
    rw [compileChildren_eq, if_neg (by simpa using filled), children] at below
    exact (Except.ok.inj below).symm
  subst all
  cases content with
  | typed type members =>
    cases made
    exact ⟨ns, List.mem_cons_of_mem _ List.mem_cons_self, List.Subset.refl ns⟩
  | native members =>
    obtain ⟨merged, nesting, rfl⟩ := map_ok.mp made
    obtain ⟨entries, -, rfl⟩ := compileAll_ok.mp children
    obtain ⟨ms, rfl, kept⟩ := Native.nest_ok (Members.nodup_ofList entries) (mapError_ok.mp nesting)
    exact ⟨ms, mem_withMinDocCount _ (Members.mem_put ..) (by simp), kept⟩

/-- By induction on the place: the entry is where the path leads to. -/
theorem entry_standing {path : List Step} (standing : Standing as path a) {ms : Members}
    (compiled : compileAll setting as = .ok ms) :
    ∃ e, entry setting a = .ok e ∧ (Value.obj ms).At path (.obj e) := by
  induction standing generalizing ms with
  | listed last =>
    obtain ⟨e, own, there⟩ := last.entry compiled
    exact ⟨e, own, .member there .here⟩
  | @nested as outer _ path last deeper ih =>
    obtain ⟨e, own, there⟩ := last.entry compiled
    obtain ⟨ns, children⟩ := children_compile own
    obtain ⟨inner, innerOwn, found⟩ := ih children
    have filled : outer.children ≠ [] := by
      intro none
      rw [none] at deeper
      cases deeper with
      | listed last | nested last =>
        obtain ⟨before, after, split, -⟩ := last
        simp at split
    obtain ⟨all, listed, kept⟩ := entry_nests filled own children
    refine ⟨inner, innerOwn, .member there (.member listed ?_)⟩
    -- The path goes on with a key, so it leads through what a native body adds.
    cases deeper <;> exact found.mono kept

theorem entry_place {path : List Step} (place : Place as path a) (distinct : DistinctKeys as)
    {ms : Members} (compiled : compileAll setting as = .ok ms) :
    ∃ e, entry setting a = .ok e ∧ (Value.obj ms).At path (.obj e) :=
  entry_standing (place.standing distinct) compiled

/-- The queries of buckets stand under their labels. -/
theorem filter_place {e : Members} {queries : List (String × Query)} {label : String} {q : Query}
    (filters : a.body = .filters queries) (inside : (label, q) ∈ queries)
    (compiled : entry setting a = .ok e) :
    ∃ clause, q.compile setting.timeZone = .ok clause ∧ (Value.obj e).At
      [.name "filters", .name "filters", .name label] clause.body := by
  obtain ⟨nested, content, -, body, made⟩ := entry_ok.mp compiled
  rw [filters, Body.compile] at body
  obtain ⟨bodies, each, rest⟩ := bind_ok.mp body
  cases rest
  cases made
  obtain ⟨m, there, own⟩ := mapM_ok_mem each inside
  rw [compileFilter] at own
  split at own
  next clause compiled =>
    cases own
    have all := mem_withMinDocCount a.minDocCount (List.mem_singleton.mpr rfl)
      (show ("filters", Value.obj bodies).1 ≠ "min_doc_count" by simp)
    exact ⟨clause, compiled, .member List.mem_cons_self (.member all (.member there .here))⟩
  next => cases own

end Aggregation

namespace Request

/-- A part of a request, and the path to it in the body. -/
inductive Place (r : Request) : List Step → Node → Prop
  | query {q p : Query} {path : List Step} :
    r.query = some q → q.Place path p → Place r (.name "query" :: path) (.query p)
  | aggregation {a : Aggregation} {path : List Step} :
    Aggregation.Place r.aggregations path a → Place r (.name "aggs" :: path) (.aggregation a)
  | filter {a : Aggregation} {queries : List (String × Query)} {label : String} {q p : Query}
    {path inner : List Step} :
    Aggregation.Place r.aggregations path a → a.body = .filters queries → (label, q) ∈ queries →
    q.Place inner p →
    Place r (.name "aggs" :: path ++ .name "filters" :: .name "filters" :: .name label :: inner)
      (.query p)

/-- What a node is compiled to. -/
inductive Node.CompilesTo (setting : Aggregation.Setting) : Node → Value → Prop
  | query {q : Query} {clause : Engine.Clause} :
    q.compile setting.timeZone = .ok clause → CompilesTo setting (.query q) clause.body
  | aggregation {a : Aggregation} {e : Members} :
    Aggregation.entry setting a = .ok e → CompilesTo setting (.aggregation a) (.obj e)

variable {r : Request} {current : Calendar.Moment} {context : Context}

theorem compileIn_ok {request : Engine.Request}
    (compiled : r.compileIn current context = .ok request) :
    compileQuery context.timeZone r.query = .ok request.query ∧
      Aggregation.compileAll (.ofContext current context) r.aggregations =
        .ok request.aggregations := by
  obtain ⟨query, first, rest⟩ := bind_ok.mp compiled
  obtain ⟨aggregations, second, made⟩ := bind_ok.mp rest
  cases made
  exact ⟨first, second⟩

theorem body_query {request : Engine.Request} {clause : Engine.Clause} {path : List Step}
    {v : Value} (asked : request.query = some clause) (found : clause.body.At path v) :
    request.body.At (.name "query" :: path) v := by
  refine .member ?_ found
  simp [Engine.Request.members, asked, Members.optional]

theorem body_aggregations {request : Engine.Request} {key : String} {path : List Step} {v : Value}
    (found : (Value.obj request.aggregations).At (.name key :: path) v) :
    request.body.At (.name "aggs" :: .name key :: path) v := by
  refine .member ?_ found
  have filled : request.aggregations ≠ [] := by
    intro none
    rw [none] at found
    cases found
    contradiction
  simp [Engine.Request.members, Engine.Request.objectMember, filled]

/-- An entry that no sibling replaces stands in the body. -/
theorem body_standing {request : Engine.Request} {as : List Aggregation} {a : Aggregation}
    {path : List Step} {v : Value} (standing : Aggregation.Standing as path a)
    (found : (Value.obj request.aggregations).At path v) :
    request.body.At (.name "aggs" :: path) v := by
  cases standing <;> exact body_aggregations found

/-- Every part of a request stands at its place in the body, compiled in the context that all parts
share. -/
theorem compileIn_place {request : Engine.Request}
    (distinct : Aggregation.DistinctKeys r.aggregations)
    (compiled : r.compileIn current context = .ok request) {path : List Step} {node : Node}
    (place : r.Place path node) :
    ∃ v, request.body.At path v ∧ node.CompilesTo (.ofContext current context) v := by
  obtain ⟨query, aggregations⟩ := compileIn_ok compiled
  cases place with
  | query asked within =>
    rw [asked, compileQuery] at query
    split at query
    next clause whole =>
      obtain ⟨part, own, found⟩ := Query.compile_place within whole
      exact ⟨part.body, body_query (Except.ok.inj query).symm found, .query own⟩
    next => cases query
  | aggregation within =>
    obtain ⟨e, own, found⟩ := Aggregation.entry_place within distinct aggregations
    exact ⟨.obj e, body_standing (within.standing distinct) found, .aggregation own⟩
  | filter within filters inside deeper =>
    obtain ⟨e, own, found⟩ := Aggregation.entry_place within distinct aggregations
    obtain ⟨clause, whole, labelled⟩ := Aggregation.filter_place filters inside own
    obtain ⟨part, compiled, below⟩ := Query.compile_place deeper whole
    have entry := body_standing (within.standing distinct) found
    exact ⟨part.body, entry.append (labelled.append below), .query compiled⟩

end Request

end PortableSearch
