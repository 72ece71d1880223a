import PortableSearch.Engine.ClauseRecord

/-! The body of a search request to the engine. The start and the number of hits are always sent;
every other member is left out when it is not set or empty. -/
namespace PortableSearch.Engine

structure Request where
  start : Int
  size : Int
  query : Option Clause
  /-- The fields of the documents that are sent back; all if there are none. -/
  source : List String
  aggregations : Members
  /-- Pairs of a field and a direction. -/
  sort : List (List (String × String))
  storedFields : List String

namespace Request

/-- A list under its name, unless it is empty. -/
def listMember (name : String) (vs : List Value) : Members :=
  if vs.isEmpty then [] else [(name, .list vs)]

/-- An object under its name, unless it is empty. -/
def objectMember (name : String) (ms : Members) : Members :=
  if ms.isEmpty then [] else [(name, .obj ms)]

def textPairs (pairs : List (String × String)) : Value :=
  .obj (pairs.map fun p => (p.1, .str p.2))

/-- The members of the body, in order. -/
def members (r : Request) : Members :=
  [("from", .int r.start), ("size", .int r.size)] ++
    Members.optional "query" (r.query.map Clause.body) ++
    listMember "_source" (r.source.map Value.str) ++
    objectMember "aggs" r.aggregations ++
    listMember "sort" (r.sort.map textPairs) ++
    listMember "stored_fields" (r.storedFields.map Value.str)

def body (r : Request) : Value := .obj r.members

/-- The texts of an object of texts. -/
def textsOf (v : Value) : List (String × String) :=
  v.fields.filterMap fun m => m.2.text?.map (m.1, ·)

/-- The request of a record; none if its query cannot be written. -/
def ofFields? (fields : Members) : Option Request := do
  let query ← match fields.get "query" with
    | .null => some none
    | v => (Clause.ofValue? v).map some
  return { start := fields.int "from_"
           size := fields.int "size"
           query
           source := (fields.items "source").filterMap Value.text?
           aggregations := []
           sort := (fields.items "sort").map textsOf
           storedFields := (fields.items "stored_fields").filterMap Value.text? }

end Request

/-- Why a value has no body. -/
inductive Unwritable where
  /-- It is or holds a clause of no particular kind. -/
  | plain
  /-- It is nothing of the engine's own. -/
  | foreign
deriving DecidableEq, Repr

/-- What is said about a clause of no particular kind. -/
def Unwritable.message? : Unwritable → Option String
  | plain => some Clause.unwritableMessage
  | foreign => none

/-- The body of a record of the engine's own kinds. -/
def bodyOf (v : Value) : Except Unwritable Value :=
  match v with
  | .record kinds _ fields _ =>
    if kinds.contains "EsSearchRequest" then
      ((Request.ofFields? fields).map Request.body).elim (.error .plain) .ok
    else if kinds.contains plainType.kind then
      ((Clause.ofValue? v).map Clause.body).elim (.error .plain) .ok
    else .error .foreign
  | _ => .error .foreign

end PortableSearch.Engine
