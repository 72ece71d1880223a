import PortableSearch.Query

/-! Aggregations that no engine owns: what is computed over the documents that match, and within
each of the buckets of another aggregation. -/
namespace PortableSearch

inductive Direction where
  | ascending
  | descending
deriving DecidableEq, Repr

/-- The direction as it is written. -/
def Direction.text : Direction → String
  | ascending => "asc"
  | descending => "desc"

def Direction.ofText (s : String) : Direction := if s = "asc" then ascending else descending

/-- A point by its longitude and latitude. -/
structure Coordinate where
  lon : Float
  lat : Float

/-- A half-open interval of values, with a key for its bucket. -/
structure Span where
  key : Option String
  start : Option Value
  stop : Option Value

namespace Aggregation

/-- What buckets are ordered by. -/
inductive SortBasis where
  | count
  | key
deriving DecidableEq, Repr

/-- The basis as it is written. -/
def SortBasis.text : SortBasis → String
  | count => "_count"
  | key => "_key"

structure BucketOrder where
  basis : SortBasis
  direction : Direction
deriving DecidableEq, Repr

/-- The order of buckets that is used where none is asked for. -/
def BucketOrder.standard : BucketOrder := ⟨.count, .descending⟩

/-- What an aggregation computes. -/
inductive Body where
  | terms (field : String) (size : Int) (order : BucketOrder) (missing : Option Value)
  /-- The documents that lack the field. -/
  | missing (field : String)
  /-- The number of distinct values. -/
  | cardinality (field : String)
  | histogram (field : String) (interval : Float) (offset : Option Float)
  | dateHistogram (field interval : String) (format offset timeZone : Option String)
  | stats (field : String)
  | ranges (field : String) (spans : List Span)
  | dateRanges (field : String) (spans : List Span) (format timeZone : Option String)
  | geoHash (field : String) (precision size : Option Int)
  | geoCentroid (field : String)
  | geoBounds (field : String)
  | geoDistance (field : String) (origin : Coordinate) (unit : Option String) (spans : List Span)
  /-- One bucket for each of the named queries. -/
  | filters (queries : List (String × Query))
  /-- A body in the engine's own language, as data or as text. -/
  | native (value : Value)
  /-- A kind of aggregation that is not known here. -/
  | other (kind : String)

end Aggregation

/-- An aggregation has a key that the caller chose, a body, a least number of documents for its
buckets, and children that are computed within each of them. -/
inductive Aggregation where
  | mk (key : String) (body : Aggregation.Body) (minDocCount : Option Int)
      (children : List Aggregation)

namespace Aggregation

def key : Aggregation → String
  | mk key _ _ _ => key

def body : Aggregation → Body
  | mk _ body _ _ => body

def minDocCount : Aggregation → Option Int
  | mk _ _ count _ => count

def children : Aggregation → List Aggregation
  | mk _ _ _ children => children

end Aggregation

end PortableSearch
