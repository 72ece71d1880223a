import PortableSearch.Query

/-! The engine's own queries, and the objects they are written as. Values that are not set are
never written. -/
namespace PortableSearch.Engine

/-- A clause of the engine's query language. -/
inductive Clause where
  | bool (must filter should mustNot : List Clause)
  | matchAll
  | range (field : String) (bounds : Bounds Value) (boost : Option Float)
      (format timeZone : Option String)
  | term (field text : String) (boost : Option Float)
  | terms (field : String) (texts : List String) (boost : Option Float)
  | fullText (field text : String) (operator : Option String) (boost : Option Float)
  | wildcard (field pattern : String)
  | regex (field pattern : String) (boost : Option Float)
  | startsWith (field text : String) (boost : Option Float)
  | queryString (text : String) (defaultField defaultOperator : Option String)
  /-- A search template that is given in the request. -/
  | inlineTemplate (template : String) (params : Members)
  /-- A search template that the engine has under a name. -/
  | storedTemplate (id : String) (params : Members)
  | box (field : String) (envelope : Envelope)
  | present (field : String)

namespace Clause

def texts : Option String → Value := Value.ofOption Value.str
def doubles : Option Float → Value := Value.ofOption Value.float

/-- An object with one member. -/
def single (name : String) (v : Value) : Value := .obj [(name, v)]

/-- The object of one field under the name of a clause. -/
def onField (clause field : String) (ms : Members) : Value :=
  single clause (single field (.obj ms.compact))

/-- The corners of a rectangle. -/
def corners (e : Envelope) : Members :=
  [("top_left", .obj [("lon", .float e.minX), ("lat", .float e.maxY)]),
    ("bottom_right", .obj [("lon", .float e.maxX), ("lat", .float e.minY)])]

/-- The members of a range. -/
def rangeMembers (b : Bounds Value) (boost : Option Float) (format timeZone : Option String) :
    Members :=
  [("gte", Value.ofOption id b.gte), ("gt", Value.ofOption id b.gt),
    ("lte", Value.ofOption id b.lte), ("lt", Value.ofOption id b.lt),
    ("boost", doubles boost), ("format", texts format), ("time_zone", texts timeZone)]

/-- A list of clauses under its name, unless it is empty. -/
def clauseList (name : String) (bodies : List Value) : Members :=
  if bodies.isEmpty then [] else [(name, .list bodies)]

mutual

/-- The object that a clause is written as. A boost beside the terms of a field named so takes
the place of the terms. -/
def body : Clause → Value
  | bool must filter should mustNot =>
    single "bool" (.obj (clauseList "must" (bodies must) ++ clauseList "filter" (bodies filter) ++
      clauseList "should" (bodies should) ++ clauseList "must_not" (bodies mustNot)))
  | matchAll => single "match_all" (.obj [])
  | range field bounds boost format timeZone =>
    onField "range" field (rangeMembers bounds boost format timeZone)
  | term field text boost => onField "term" field [("value", .str text), ("boost", doubles boost)]
  | terms field ts boost =>
    single "terms" (.obj
      (Members.put [(field, .list (ts.map Value.str))] "boost" (doubles boost)).compact)
  | fullText field text operator boost =>
    onField "match" field
      [("query", .str text), ("boost", doubles boost), ("operator", texts operator)]
  | wildcard field pattern => onField "wildcard" field [("value", .str pattern)]
  | regex field pattern boost =>
    onField "regexp" field [("value", .str pattern), ("boost", doubles boost)]
  | startsWith field text boost =>
    onField "prefix" field [("value", .str text), ("boost", doubles boost)]
  | queryString text defaultField defaultOperator =>
    single "query_string" (.obj (Members.compact
      [("query", .str text), ("default_field", texts defaultField),
        ("default_operator", texts defaultOperator)]))
  | inlineTemplate template params =>
    single "template" (.obj [("inline", .str template), ("params", .obj params)])
  | storedTemplate id params => single "template" (.obj [("id", .str id), ("params", .obj params)])
  | box field envelope => single "geo_bounding_box" (single field (.obj (corners envelope)))
  | present field => single "exists" (single "field" (.str field))

def bodies : List Clause → List Value
  | [] => []
  | c :: cs => body c :: bodies cs

end

end Clause

end PortableSearch.Engine
