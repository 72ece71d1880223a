import PortableSearch.Proofs.Members
import PortableSearch.Proofs.Outcome
import PortableSearch.Proofs.Query.Combined
import PortableSearch.Proofs.Query.Meaning
import PortableSearch.Query.Record

/-! Reading queries back from the engine's objects. A query has a normal form, in which what is
written alike is alike: an absent field is the negation of a present one, values are the texts that
they are compared as, and a range has the bounds that are set and the time zone that is sent. The
object of a query determines its normal form. -/
namespace PortableSearch
open Engine

/-- The bounds that are set to something. -/
def Bounds.present (b : Bounds Value) : Bounds Value :=
  ⟨b.gte.bind Value.present?, b.gt.bind Value.present?, b.lte.bind Value.present?,
    b.lt.bind Value.present?⟩

/-- A query in normal form. -/
inductive NormalQuery where
  | all (of : List NormalQuery)
  | any (of : List NormalQuery)
  | none (of : List NormalQuery)
  | matchAll
  | term (field text : String)
  | terms (field : String) (texts : List String)
  | fullText (field text : String) (operator : Option String)
  | range (field : String) (bounds : Bounds Value) (timeZone : Option String)
  | regex (field pattern : String)
  | startsWith (field text : String)
  | wildcard (field pattern : String)
  | present (field : String)
  | box (field : String) (envelope : Envelope)
  | queryString (text : String) (defaultField : Option String) (defaultOperator : String)
  | other (kind : String)

namespace Query

mutual

/-- The normal form of a query, in a request with a time zone. -/
def normal (timeZone : Option String) : Query → NormalQuery
  | all of => .all (normals timeZone of)
  | any of => .any (normals timeZone of)
  | none of => .none (normals timeZone of)
  | matchAll => .matchAll
  | term field value => .term field (termText value)
  | terms field values => .terms field (values.map termText)
  | fullText field text operator => .fullText field text operator
  | range field bounds => .range field bounds.present Option.none
  | dateRange field bounds own =>
    .range field (bounds.map Instant.value) (zoneOfRange bounds own timeZone)
  | regex field pattern => .regex field pattern
  | startsWith field text => .startsWith field text
  | wildcard field pattern => .wildcard field pattern
  | presence field true => .present field
  | presence field false => .none [.present field]
  | box field envelope => .box field envelope
  | queryString text defaultField defaultOperator =>
    .queryString text defaultField defaultOperator
  | other kind => .other kind

def normals (timeZone : Option String) : List Query → List NormalQuery
  | [] => []
  | q :: qs => normal timeZone q :: normals timeZone qs

end

mutual

/-- No list of terms in the query is for the field of a name. -/
def avoidsTerms (name : String) : Query → Bool
  | all of | any of | none of => avoidTerms name of
  | terms field _ => field != name
  | _ => true

def avoidTerms (name : String) : List Query → Bool
  | [] => true
  | q :: qs => avoidsTerms name q && avoidTerms name qs

end

end Query

namespace NormalQuery

/-- The rectangle of two corners. -/
def envelope? (corners : Members) : Option Envelope := do
  let topLeft := (corners.get "top_left").fields
  let bottomRight := (corners.get "bottom_right").fields
  return { minX := ← topLeft.double? "lon", maxX := ← bottomRight.double? "lon",
           minY := ← bottomRight.double? "lat", maxY := ← topLeft.double? "lat" }

/-- The query that a clause on one field says, from the object of the field. -/
def ofField? (clause field : String) (ms : Members) : Option NormalQuery :=
  match clause with
  | "term" => (ms.text? "value").map (.term field)
  | "match" => (ms.text? "query").map fun text => .fullText field text (ms.text? "operator")
  | "range" => some (.range field (.ofFields Value.present? ms) (ms.text? "time_zone"))
  | "regexp" => (ms.text? "value").map (.regex field)
  | "prefix" => (ms.text? "value").map (.startsWith field)
  | "wildcard" => (ms.text? "value").map (.wildcard field)
  | "geo_bounding_box" => (envelope? ms).map (.box field)
  | _ => Option.none

/-- The query that a clause says which is not boolean, from its members. -/
def ofMembers? (clause : String) (ms : Members) : Option NormalQuery :=
  match clause with
  | "match_all" => some .matchAll
  | "exists" => (ms.text? "field").map .present
  | "query_string" => do
    return .queryString (← ms.text? "query") (ms.text? "default_field")
      (← ms.text? "default_operator")
  | "terms" =>
    match ms with
    | [(field, .list vs)] => (vs.mapM Value.text?).map (.terms field)
    | _ => Option.none
  | _ =>
    match ms with
    | [(field, .obj ms)] => ofField? clause field ms
    | _ => Option.none

/-- The combination of queries that are listed under a name in a boolean object. -/
def combine? (list : String) (of : List NormalQuery) : Option NormalQuery :=
  match list with
  | "must" => some (.all of)
  | "should" => some (.any of)
  | "must_not" => some (.none of)
  | _ => Option.none

mutual

/-- The query that an object of the query language was written from, in normal form. -/
def read? : Value → Option NormalQuery
  | .obj [(clause, .obj ms)] => if clause = "bool" then readList? ms else ofMembers? clause ms
  | _ => Option.none

/-- The query of a boolean object with a single list. -/
def readList? : List (String × Value) → Option NormalQuery
  | [(list, .list vs)] => (readAll? vs).bind (combine? list)
  | _ => Option.none

def readAll? : List Value → Option (List NormalQuery)
  | [] => some []
  | v :: vs => do return (← read? v) :: (← readAll? vs)

end

theorem read_leaf {clause : String} (ms : Members) (leaf : clause ≠ "bool") :
    read? (Clause.single clause (.obj ms)) = ofMembers? clause ms := by
  simp only [Clause.single, read?, if_neg leaf]

theorem read_combined {list : String} {clauses : List Clause} {of : List NormalQuery}
    (read : readAll? (Clause.bodies clauses) = some of) (filled : of ≠ []) :
    read? (.obj [("bool", .obj (Clause.clauseList list (Clause.bodies clauses)))]) =
      combine? list of := by
  cases clauses with
  | nil => exact absurd (Option.some.inj read).symm filled
  | cons clause clauses =>
    simp only [Clause.bodies] at read ⊢
    simp only [Clause.clauseList, List.isEmpty_cons, Bool.false_eq_true, if_false, read?, if_true,
      readList?, read, Option.bind_some]

theorem text?_texts (s : Option String) : (Clause.texts s).text? = s := by
  cases s <;> rfl

theorem mapM_text? (texts : List String) :
    (texts.map Value.str).mapM Value.text? = some texts := by
  induction texts with
  | nil => rfl
  | cons s texts ih => rw [List.map_cons, List.mapM_cons, ih]; rfl

theorem present_ofOption (v : Option Value) :
    (Value.ofOption id v).present? = v.bind Value.present? := by
  cases v <;> rfl

theorem present_value (i : Instant) : i.value.present? = some i.value := by
  cases i <;> rfl

theorem present_map_value (bounds : Bounds Instant) :
    (bounds.map Instant.value).present = bounds.map Instant.value := by
  have here : ∀ i : Option Instant, (i.map Instant.value).bind Value.present? =
      i.map Instant.value := by
    intro i
    cases i with
    | none => rfl
    | some i => exact present_value i
  simp only [Bounds.present, Bounds.map, here]

theorem read_range (field : String) (bounds : Bounds Value) (timeZone : Option String) :
    read? (Clause.range field bounds Option.none Option.none timeZone).body =
      some (.range field bounds.present timeZone) := by
  have distinct : (Clause.rangeMembers bounds Option.none Option.none timeZone).names.Nodup := by
    simp [Clause.rangeMembers, Members.names]
  have read (ms : Members) : read? (Clause.onField "range" field ms) =
      some (.range field (.ofFields Value.present? ms.compact) (ms.compact.text? "time_zone")) :=
    rfl
  simp only [Clause.body, read, Bounds.ofFields, Members.text?, Members.get_compact distinct]
  simp [Clause.rangeMembers, Members.get_cons, present_ofOption, text?_texts, Bounds.present]

theorem read_terms {field : String} (texts : List String) (plain : field ≠ "boost") :
    read? (Clause.terms field texts Option.none).body = some (.terms field texts) := by
  have kept : (Members.put [(field, .list (texts.map Value.str))] "boost"
      (Clause.doubles Option.none)).compact = [(field, .list (texts.map Value.str))] := by
    simp [Members.put, plain, Members.compact, Clause.doubles, Value.ofOption]
  rw [Clause.body, kept, read_leaf _ (by decide)]
  simp only [ofMembers?, mapM_text?, Option.map_some]

theorem read_fullText (field text : String) (operator : Option String) :
    read? (Clause.fullText field text operator Option.none).body =
      some (.fullText field text operator) := by
  cases operator <;> rfl

theorem read_queryString (text : String) (defaultField : Option String)
    (defaultOperator : String) :
    read? (Clause.queryString text defaultField (some defaultOperator)).body =
      some (.queryString text defaultField defaultOperator) := by
  cases defaultField <;> rfl

end NormalQuery

namespace Query
open NormalQuery

theorem normals_ne_nil (timeZone : Option String) {qs : List Query}
    (filled : (!qs.isEmpty) = true) : normals timeZone qs ≠ [] := by
  cases qs <;> simp_all [normals]

/-- A query that combines others is read back where these are. -/
theorem combined_reads (timeZone : Option String) {q : Query} {list : String} {of : List Query}
    (combined : q.combined? = some (list, of)) (filled : (!of.isEmpty) = true)
    (all : ∃ clauses, compileAll timeZone of = .ok clauses ∧
      readAll? (Clause.bodies clauses) = some (normals timeZone of)) :
    ∃ clause, q.compile timeZone = .ok clause ∧
      read? clause.body = some (q.normal timeZone) := by
  obtain ⟨clauses, compiled, read⟩ := all
  have whole := compile_combined timeZone combined
  rw [compiled] at whole
  obtain ⟨clause, own, body⟩ := map_ok.mp whole
  have normal : combine? list (normals timeZone of) = some (q.normal timeZone) := by
    cases q <;> cases combined <;> rfl
  refine ⟨clause, own, ?_⟩
  rw [body, read_combined read (normals_ne_nil timeZone filled), normal]

mutual

/-- By induction on the query. -/
theorem compile_reads (timeZone : Option String) (q : Query) (closed : q.isClosed = true)
    (plain : q.avoidsTerms "boost" = true) :
    ∃ clause, q.compile timeZone = .ok clause ∧ read? clause.body = some (q.normal timeZone) := by
  cases q with
  | all of | any of | none of =>
    simp only [isClosed, Bool.and_eq_true] at closed
    exact combined_reads timeZone rfl closed.1 (compileAll_reads timeZone of closed.2 plain)
  | terms field values => exact ⟨_, rfl, read_terms _ (by simpa [avoidsTerms] using plain)⟩
  | range field bounds => exact ⟨_, rfl, read_range field bounds Option.none⟩
  | dateRange field bounds own =>
    refine ⟨_, rfl, ?_⟩
    rw [read_range, present_map_value, normal]
  | presence field expected => cases expected <;> exact ⟨_, rfl, rfl⟩
  | fullText field text operator => exact ⟨_, rfl, read_fullText field text operator⟩
  | queryString text defaultField defaultOperator =>
    exact ⟨_, rfl, read_queryString text defaultField defaultOperator⟩
  | other kind => simp [isClosed] at closed
  | _ => exact ⟨_, rfl, rfl⟩

theorem compileAll_reads (timeZone : Option String) (qs : List Query)
    (closed : areClosed qs = true) (plain : avoidTerms "boost" qs = true) :
    ∃ clauses, compileAll timeZone qs = .ok clauses ∧
      readAll? (Engine.Clause.bodies clauses) = some (normals timeZone qs) := by
  cases qs with
  | nil => exact ⟨[], rfl, rfl⟩
  | cons q qs =>
    simp only [areClosed, Bool.and_eq_true] at closed
    simp only [avoidTerms, Bool.and_eq_true] at plain
    obtain ⟨clause, compiled, read⟩ := compile_reads timeZone q closed.1 plain.1
    obtain ⟨clauses, compiledAll, readAll⟩ := compileAll_reads timeZone qs closed.2 plain.2
    refine ⟨clause :: clauses, by rw [compileAll, compiled, compiledAll]; rfl, ?_⟩
    rw [Engine.Clause.bodies, readAll?, read, readAll]
    rfl

end

/-- The object of a query tells its normal form: one reader finds it in every context, so queries
that are written as the same object, in whichever contexts, have the same normal form. A list of
terms for a field named `boost` is left out, since it is written as an object without members. -/
theorem object_determines_normal (context : Context) {q : Query} (closed : q.isClosed = true)
    (plain : q.avoidsTerms "boost" = true) :
    (∃ clause, q.compile context.timeZone = .ok clause ∧
      read? clause.body = some (q.normal context.timeZone)) ∧
    ∀ (otherContext : Context) (other : Query), other.isClosed = true →
      other.avoidsTerms "boost" = true →
      (q.compile context.timeZone).map Engine.Clause.body =
        (other.compile otherContext.timeZone).map Engine.Clause.body →
      q.normal context.timeZone = other.normal otherContext.timeZone := by
  obtain ⟨clause, compiled, read⟩ := compile_reads context.timeZone q closed plain
  refine ⟨⟨clause, compiled, read⟩, ?_⟩
  intro otherContext other otherClosed otherPlain same
  obtain ⟨otherClause, otherCompiled, otherRead⟩ :=
    compile_reads otherContext.timeZone other otherClosed otherPlain
  rw [compiled, otherCompiled] at same
  have bodies : clause.body = otherClause.body := Except.ok.inj same
  exact Option.some.inj (by rw [← read, ← otherRead, bodies])

/-- A query with a zone of its own that says nothing, a null bound, and a field that is absent. -/
theorem berlin_determines_normal :
    let context : Context := ⟨some "Europe/Berlin", Option.none⟩
    let absent : Query := .presence "retired" false
    let q : Query := .all [.any [.terms "tags" [.bool true, .null], absent],
      .dateRange "at" ⟨some (.expression "now-1d"), Option.none, Option.none, some (.int 5)⟩
        (some ""),
      .range "size" ⟨some .null, some (.int 1), Option.none, Option.none⟩]
    q.isClosed = true ∧ q.avoidsTerms "boost" = true ∧
    (∃ clause, q.compile context.timeZone = .ok clause ∧ read? clause.body = some
      (.all [.any [.terms "tags" ["true", "null"], .none [.present "retired"]],
        .range "at" ⟨some (.str "now-1d"), Option.none, Option.none, some (.int 5)⟩
          (some "Europe/Berlin"),
        .range "size" ⟨Option.none, some (.int 1), Option.none, Option.none⟩ Option.none])) ∧
    absent.normal context.timeZone =
      (Query.none [.presence "retired" true]).normal Context.empty.timeZone := by
  intro context absent q
  refine ⟨rfl, rfl, (object_determines_normal context (q := q) rfl rfl).1, ?_⟩
  exact (object_determines_normal context (q := absent) rfl rfl).2 Context.empty _ rfl rfl rfl

end Query

end PortableSearch
