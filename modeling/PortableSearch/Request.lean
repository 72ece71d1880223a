import PortableSearch.Aggregation

/-! Search requests that no engine owns. -/
namespace PortableSearch

/-- An order of the documents by a field. -/
structure DocumentOrder where
  field : String
  direction : Direction
deriving DecidableEq, Repr

structure Request where
  /-- How many hits are passed over. -/
  offset : Int
  /-- How many hits are wanted, if the request says so. -/
  limit : Option Int
  query : Option Query
  aggregations : List Aggregation
  orders : List DocumentOrder
  /-- The fields of the documents that are wanted; all if there are none. -/
  fields : List String
  storedFields : Option (List String)
  /-- What else was asked for, by name. -/
  params : Members

/-- How many hits are sent for a request that does not say how many it wants. -/
def Request.standardLimit : Int := 50

end PortableSearch
