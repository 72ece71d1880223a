import PortableSearch.Request.Compile
import PortableSearch.Proofs.Aggregation.OwnFault

/-! Which fault a request reports. The parts of a request are visited in one order: the query, each
before what it combines and that from left to right, then the aggregations in their order, each
after its children. A request fails where one of its parts fails by itself, and it reports the
fault of the first that does. -/
namespace PortableSearch

namespace Aggregation

mutual

/-- An aggregation and all aggregations within it, each after its children. -/
def parts : Aggregation → List Aggregation
  | mk key body count children => partsOfEach children ++ [mk key body count children]

def partsOfEach : List Aggregation → List Aggregation
  | [] => []
  | a :: as => parts a ++ partsOfEach as

end

/-- The fault of what comes after the children does not depend on their entries. -/
theorem faultOf_afterChildren {setting : Setting} {a : Aggregation} {nested : Option Members}
    (children : compileChildren setting a.children = .ok nested) :
    faultOf (a.body.compile setting a.key >>= fun content =>
      content.entry a.key a.minDocCount nested) = ownFault? setting a := by
  have entries (content : Content) : faultOf (content.entry a.key a.minDocCount nested) =
      faultOf (content.entry a.key a.minDocCount
        (if a.children.isEmpty then none else some [])) := by
    rw [compileChildren_eq] at children
    split at children
    next none =>
      cases children
      rw [if_pos none]
    next filled =>
      obtain ⟨ms, -, rfl⟩ := map_ok.mp children
      rw [if_neg filled]
      exact faultOf_entry_nested content a.key a.minDocCount ms []
  rw [ownFault?]
  cases a.body.compile setting a.key with
  | error fault => rfl
  | ok content => exact entries content

theorem faultOf_compileAll (setting : Setting) (as : List Aggregation) :
    faultOf (compileAll setting as) = as.findSome? fun a => faultOf (entry setting a) := by
  rw [compileAll_eq, faultOf_map, faultOf_mapM]
  simp only [named, faultOf_map]

theorem faultOf_compileChildren (setting : Setting) (as : List Aggregation) :
    faultOf (compileChildren setting as) = as.findSome? fun a => faultOf (entry setting a) := by
  rw [← faultOf_compileAll, compileChildren_eq]
  cases as with
  | nil => rfl
  | cons a as => exact faultOf_map

mutual

/-- By induction on the aggregation: its children come first, and what comes after them fails by
the aggregation itself. -/
theorem faultOf_entry (setting : Setting) (a : Aggregation) :
    faultOf (entry setting a) = a.parts.findSome? (ownFault? setting) := by
  obtain ⟨key, body, count, children⟩ := a
  rw [entry_eq, faultOf_bind fun nested compiled => faultOf_afterChildren compiled,
    faultOf_compileChildren, parts, List.findSome?_append, List.findSome?_singleton]
  exact congrArg (Option.or · _) (faultOf_entries setting children)

theorem faultOf_entries (setting : Setting) (as : List Aggregation) :
    (as.findSome? fun a => faultOf (entry setting a)) =
      (partsOfEach as).findSome? (ownFault? setting) := by
  cases as with
  | nil => rfl
  | cons a as =>
    rw [List.findSome?_cons, partsOfEach, List.findSome?_append, ← faultOf_entry setting a,
      ← faultOf_entries setting as]
    cases faultOf (entry setting a) <;> rfl

end

end Aggregation

namespace Request

/-- A part of a request that may fail by itself. -/
inductive Node where
  | query (q : Query)
  | aggregation (a : Aggregation)

/-- The nodes of a request in the order in which they are compiled. -/
def nodes (r : Request) : List Node :=
  (r.query.toList.flatMap Query.parts).map .query ++
    (Aggregation.partsOfEach r.aggregations).map .aggregation

/-- What a node itself fails with. -/
inductive Node.FailsWith (setting : Aggregation.Setting) : Node → CompileFault → Prop
  | query {q : Query} {fault : Query.UnsupportedKind} :
    q.FailsWith fault → FailsWith setting (.query q) (.unsupportedQuery fault)
  | aggregation {a : Aggregation} {fault : CompileFault} :
    a.FailsWith setting fault → FailsWith setting (.aggregation a) fault

/-- The fault of a node itself. -/
def Node.ownFault? (setting : Aggregation.Setting) : Node → Option CompileFault
  | .query q => q.ownFault?.map .unsupportedQuery
  | .aggregation a => a.ownFault? setting

theorem Node.ownFault?_eq_some {setting : Aggregation.Setting} (node : Node)
    (fault : CompileFault) :
    node.ownFault? setting = some fault ↔ node.FailsWith setting fault := by
  cases node with
  | query q =>
    rw [Node.ownFault?, Option.map_eq_some_iff]
    constructor
    · rintro ⟨kind, found, rfl⟩
      exact .query ((q.ownFault?_eq_some kind).mp found)
    · rintro ⟨failed⟩
      exact ⟨_, (q.ownFault?_eq_some _).mpr failed, rfl⟩
  | aggregation a =>
    rw [Node.ownFault?, a.ownFault?_eq_some]
    constructor
    · exact .aggregation
    · rintro ⟨⟩
      assumption

theorem faultOf_compileQuery (timeZone : Option String) (query : Option Query) :
    faultOf (compileQuery timeZone query) =
      ((query.toList.flatMap Query.parts).findSome? Query.ownFault?).map .unsupportedQuery := by
  cases query with
  | none => rfl
  | some q =>
    rw [Option.toList_some, List.flatMap_singleton, ← Query.faultOf_compile timeZone, compileQuery]
    cases q.compile timeZone <;> rfl

theorem faultOf_compileIn (current : Calendar.Moment) (context : Context) (r : Request) :
    faultOf (r.compileIn current context) =
      r.nodes.findSome? (Node.ownFault? (.ofContext current context)) := by
  have aggregations (query : Option Engine.Clause) : faultOf (do
      let aggregations ← Aggregation.compileAll (.ofContext current context) r.aggregations
      return ({ start := r.offset, size := r.limit.getD standardLimit, query,
                source := Text.ascending r.fields, aggregations, sort := r.orders.map orderPair,
                storedFields := r.storedFields.getD [] } : Engine.Request)) =
      (Aggregation.partsOfEach r.aggregations).findSome?
        (Aggregation.ownFault? (.ofContext current context)) := by
    rw [← Aggregation.faultOf_entries, ← Aggregation.faultOf_compileAll]
    cases Aggregation.compileAll (.ofContext current context) r.aggregations <;> rfl
  rw [compileIn, faultOf_bind fun query _ => aggregations query, faultOf_compileQuery, nodes,
    List.findSome?_append, List.findSome?_map, List.findSome?_map, List.map_findSome?]
  rfl

/-- A request fails in a context where a part of it fails by itself, and with the fault of the
first such part in the order of compilation; otherwise it has a body. -/
theorem compile_reports_first (current : Calendar.Moment) (fallbackZone : Option String)
    (context : Context) (r : Request) :
    let setting := Aggregation.Setting.ofContext current context
    (∀ fault, r.compile current fallbackZone (some context) = .error (.compile fault) ↔
      FirstIn (Node.FailsWith setting) r.nodes fault) ∧
    ((∃ body, r.compile current fallbackZone (some context) = .ok body) ↔
      ∀ node ∈ r.nodes, ∀ fault, ¬ node.FailsWith setting fault) := by
  intro setting
  have compiled : r.compile current fallbackZone (some context) =
      (r.compileIn current context).mapError .compile := rfl
  have reported := faultOf_compileIn current context r
  rw [compiled]
  constructor
  · intro fault
    rw [firstIn_iff Node.ownFault?_eq_some, ← reported, faultOf_eq_some]
    cases r.compileIn current context <;> simp [Except.mapError]
  · have succeeds : (∃ body, (r.compileIn current context).mapError Fault.compile = .ok body) ↔
        ∃ body, r.compileIn current context = .ok body := by
      cases r.compileIn current context <;> simp [Except.mapError]
    rw [succeeds, ← faultOf_eq_none, reported, List.findSome?_eq_none_iff]
    refine forall₂_congr fun node _ => ?_
    simp only [← Node.ownFault?_eq_some, Option.eq_none_iff_forall_ne_some, ne_eq, setting]

end Request

end PortableSearch
