import PortableSearch.Aggregation

/-! Search replies. Members that are not known here are kept under `other`, in the order of the
reply. -/
namespace PortableSearch.Reply

structure Shards where
  total : Int
  successful : Int
  failed : Int
  other : Members

/-- A document that matches. -/
structure Hit where
  index : Option String
  type : Option String
  id : Option String
  score : Option Float
  source : Option Members
  fields : Option (List (String × List Value))
  other : Members

structure Hits where
  total : Int
  maxScore : Option Float
  hits : List Hit

/-- One of the parts into which an aggregation splits the documents. Results of nested
aggregations are among the other members. -/
structure Bucket where
  key : Option String
  keyAsString : Option String
  count : Int
  start : Option Value
  stop : Option Value
  other : Members

/-- The result of one aggregation. -/
structure AggregationResult where
  buckets : Option (List Bucket)
  docCount : Option Int
  docCountErrorUpperBound : Option Int
  sumOtherDocCount : Option Int
  count : Option Int
  min : Option Float
  max : Option Float
  avg : Option Float
  sum : Option Float
  /-- The fields that the reply gave, be it as null. -/
  given : List String
  other : Members

structure SearchResult where
  took : Int
  timedOut : Bool
  shards : Shards
  scrollId : Option String
  hits : Hits
  aggregations : List (String × AggregationResult)
  other : Members

/-- Summary statistics of a numeric field. -/
structure Stats where
  count : Option Int
  min : Option Float
  max : Option Float
  avg : Option Float
  sum : Option Float

end PortableSearch.Reply
