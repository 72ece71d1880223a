import PortableSearch.Reply

/-! A search result without what is particular to the engine. -/
namespace PortableSearch.Reply

structure Summary where
  totalHits : Int
  documents : List Members
  aggregations : List (String × AggregationResult)
  metadata : Members

def Shards.members (s : Shards) : Members :=
  [("total", .int s.total), ("successful", .int s.successful), ("failed", .int s.failed)] ++ s.other

/-- The total, the sources of the hits that have one, and the results of the aggregations; how the
search went is metadata. -/
def SearchResult.summary (r : SearchResult) : Summary where
  totalHits := r.hits.total
  documents := r.hits.hits.filterMap Hit.source
  aggregations := r.aggregations
  metadata := [("took", .int r.took), ("timed_out", .bool r.timedOut),
      ("shards", .obj r.shards.members)] ++
    Members.optional "max_score" (r.hits.maxScore.map Value.float) ++
    Members.optional "scroll_id" (r.scrollId.map Value.str)

end PortableSearch.Reply
