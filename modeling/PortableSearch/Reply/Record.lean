import PortableSearch.Reply
import PortableSearch.Reply.Kinds

/-! Replies from records that have been read at the types of a reply. -/
namespace PortableSearch

/-- The names of the fields of a record that were given. -/
def Value.given : Value → List String
  | .record _ given _ _ => given
  | _ => []

/-- The members of a record that are no fields. -/
def Value.others : Value → Members
  | .record _ _ _ others => others
  | _ => []

namespace Reply

def Shards.ofRecord (v : Value) : Shards :=
  ⟨v.fields.int "total", v.fields.int "successful", v.fields.int "failed", v.others⟩

def Hit.ofRecord (v : Value) : Hit where
  index := v.fields.text? "index"
  type := v.fields.text? "type"
  id := v.fields.text? "id"
  score := v.fields.double? "score"
  source := (v.fields.get "source").members?
  fields := (v.fields.get "fields").members?.map fun ms => ms.map fun m => (m.1, m.2.items)
  other := v.others

def Hits.ofRecord (v : Value) : Hits :=
  ⟨v.fields.int "total", v.fields.double? "max_score", (v.fields.items "hits").map Hit.ofRecord⟩

def Bucket.ofRecord (v : Value) : Bucket where
  key := v.fields.text? "key"
  keyAsString := v.fields.text? "key_as_string"
  count := v.fields.int "doc_count"
  start := (v.fields.get "from_").present?
  stop := (v.fields.get "to").present?
  other := v.others

def AggregationResult.ofRecord (v : Value) : AggregationResult where
  buckets := (v.fields.get "buckets").present?.map fun b => b.items.map Bucket.ofRecord
  docCount := v.fields.int? "doc_count"
  docCountErrorUpperBound := v.fields.int? "doc_count_error_upper_bound"
  sumOtherDocCount := v.fields.int? "sum_other_doc_count"
  count := v.fields.int? "count"
  min := v.fields.double? "min"
  max := v.fields.double? "max"
  avg := v.fields.double? "avg"
  sum := v.fields.double? "sum"
  given := v.given
  other := v.others

def SearchResult.ofRecord (v : Value) : SearchResult where
  took := v.fields.int "took"
  timedOut := v.fields.flag "timed_out"
  shards := .ofRecord (v.fields.get "shards")
  scrollId := v.fields.text? "scroll_id"
  hits := .ofRecord (v.fields.get "hits")
  aggregations := (v.fields.get "aggregations").fields.map fun m =>
    (m.1, AggregationResult.ofRecord m.2)
  other := v.others

end Reply

end PortableSearch
