import PortableSearch.Reply.Record
import PortableSearch.Aggregation.Record
import PortableSearch.Aggregation.Kinds

/-! What the result of an aggregation says beyond its buckets: statistics, a single value, and the
results of aggregations nested in a bucket. -/
namespace PortableSearch.Reply
open Shape

/-- Reads the result of an aggregation. -/
def AggregationResult.read (v : Value) : Checked AggregationResult :=
  ((FieldType.record aggregationType).read .data v).map .ofRecord

/-- The statistics of a result in which at least one metric was given. -/
def AggregationResult.stats (r : AggregationResult) : Option Stats :=
  if metricNames.any r.given.contains then some ⟨r.count, r.min, r.max, r.avg, r.sum⟩ else none

/-- The value of a metric. -/
inductive Metric where
  | bounds (e : Envelope)
  | location (c : Coordinate)
  | plain (v : Value)

/-- Why a result that has the shape of a metric has no value. -/
inductive MetricFault where
  /-- A corner of a rectangle is something else than an object. -/
  | notCorner
  | invalid (faults : List Fault)
deriving DecidableEq, Repr

/-- The members of a corner; a missing corner has none. -/
def corner (bounds : Members) (name : String) : Except MetricFault Members :=
  let v := bounds.get name
  if v.isMissing then .ok []
  else match v with
    | .obj ms => .ok ms
    | _ => .error .notCorner

/-- The rectangle between two corners. -/
def boundsOf (bounds : Members) : Except MetricFault Envelope := do
  let topLeft ← corner bounds "top_left"
  let bottomRight ← corner bounds "bottom_right"
  let members := [("min_x", topLeft.get "lon"), ("max_x", bottomRight.get "lon"),
    ("min_y", bottomRight.get "lat"), ("max_y", topLeft.get "lat")]
  ((readRecordFields .data Query.envelopeType members).mapError .invalid).map .ofFields

def locationOf (location : Members) : Except MetricFault Coordinate :=
  let members := [("lon", location.get "lon"), ("lat", location.get "lat")]
  ((readRecordFields .data Aggregation.coordinateType members).mapError .invalid).map .ofFields

/-- The value of a result: the rectangle in `bounds`, the point in `location`, the member `value`,
or else all other members, if there are any. -/
def AggregationResult.value (r : AggregationResult) : Except MetricFault Metric :=
  match r.other.get "bounds", r.other.get "location", r.other.lookup "value" with
  | .obj bounds, _, _ => (boundsOf bounds).map .bounds
  | _, .obj location, _ => (locationOf location).map .location
  | _, _, some v => .ok (.plain v)
  | _, _, none => .ok (.plain (if r.other.isEmpty then .null else .obj r.other))

/-- The members that are objects. -/
def objectMembers (ms : Members) : Members :=
  ms.filter fun m => m.2.members?.isSome

/-- The results of the aggregations nested in a bucket, up to the first that has faults. -/
def Bucket.subAggregations (b : Bucket) : Checked (List (String × AggregationResult)) :=
  (objectMembers b.other).mapM fun m => (AggregationResult.read m.2).map fun r => (m.1, r)

end PortableSearch.Reply
