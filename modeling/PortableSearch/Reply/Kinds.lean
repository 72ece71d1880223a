import PortableSearch.Shape.Catalog

/-! The kinds of records in a search reply. Members that a kind does not declare are kept, except
in the container of the hits. -/
namespace PortableSearch.Reply
open PortableSearch.Shape

def shardsType : RecordType FieldType :=
  ⟨"Shards", ["total", "successful", "failed"].map fun n => .preset n .integer (.int 0), true⟩

def hitType : RecordType FieldType :=
  ⟨"Hit", [(FieldSpec.optional "index" .text).writtenAs "_index",
    (FieldSpec.optional "type" .text).writtenAs "_type",
    (FieldSpec.optional "id" .text).writtenAs "_id",
    (FieldSpec.optional "score" .double).writtenAs "_score",
    (FieldSpec.optional "source" (.dict .any)).writtenAs "_source",
    .optional "fields" (.dict (.list false .any))], true⟩

def hitsType : RecordType FieldType :=
  ⟨"Hits", [.preset "total" (.prepared .count .integer) (.int 0),
    .optional "max_score" .double,
    .preset "hits" (.list false (.record hitType)) (.list [])], false⟩

def bucketType : RecordType FieldType :=
  ⟨"Bucket", [⟨"key", "key", .prepared .display (.nullable .text), some .null⟩,
    .optional "key_as_string" .text, .preset "doc_count" .integer (.int 0),
    (FieldSpec.optional "from_" .any).writtenAs "from", .optional "to" .any], true⟩

/-- The metrics of a statistics result. -/
def metricNames : List String := ["min", "max", "avg", "sum"]

def aggregationType : RecordType FieldType :=
  ⟨"AggregationResult",
    ⟨"buckets", "buckets", .prepared .keyedList (.nullable (.list false (.record bucketType))),
      some .null⟩ ::
    (["doc_count", "doc_count_error_upper_bound", "sum_other_doc_count", "count"].map fun n =>
      .optional n .integer) ++
    (metricNames.map fun n => .optional n .double), true⟩

/-- The shards of a reply that does not mention them. -/
def noShards : Value :=
  .record ["Shards"] [] [("total", .int 0), ("successful", .int 0), ("failed", .int 0)] []

def resultType : RecordType FieldType :=
  ⟨"SearchResult", [.required "took" .integer, .preset "timed_out" .flag (.bool false),
    (FieldSpec.preset "shards" (.record shardsType) noShards).writtenAs "_shards",
    (FieldSpec.optional "scroll_id" .text).writtenAs "_scroll_id",
    .required "hits" (.record hitsType),
    .preset "aggregations" (.dict (.record aggregationType)) (.obj [])], true⟩

def statsType : RecordType FieldType :=
  ⟨"Stats", .optional "count" .integer ::
    metricNames.map fun n => .optional n .double, false⟩

def kinds : Catalog :=
  [shardsType.toKind, hitType.toKind, hitsType.toKind,
    bucketType.toKind, aggregationType.toKind, resultType.toKind,
    statsType.toKind,
    .plain "QueryResult" [.preset "total_hits" .integer (.int 0),
      .preset "documents" (.list false (.dict .any)) (.list []),
      .preset "aggregations" (.dict .any) (.obj []), .preset "metadata" (.dict .any) (.obj [])]]

end PortableSearch.Reply
