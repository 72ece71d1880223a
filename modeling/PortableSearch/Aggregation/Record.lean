import PortableSearch.Aggregation
import PortableSearch.Query.Record
import PortableSearch.Shape.Written

/-! Aggregations from records. A record of a kind that narrows a known one is an aggregation of the
known kind; a record as a native body is the object it is written as. -/
namespace PortableSearch
open Shape

def Span.ofFields (fields : Members) : Span :=
  ⟨fields.text? "key", (fields.get "from_").present?, (fields.get "to").present?⟩

def Coordinate.ofFields (fields : Members) : Coordinate :=
  ⟨fields.double "lon", fields.double "lat"⟩

namespace Aggregation

def BucketOrder.ofFields (fields : Members) : BucketOrder :=
  ⟨if fields.text "type" = "lexical" then .key else .count, .ofText (fields.text "direction")⟩

/-- The order of a sort field: the standard one if it is null. -/
def BucketOrder.ofValue : Value → BucketOrder
  | .null => .standard
  | v => .ofFields v.fields

/-- The spans of a list of ranges. -/
def spans (fields : Members) : List Span :=
  (fields.items "ranges").map fun v => .ofFields v.fields

/-- The body of a known kind, from the fields of a record. -/
def Body.ofKind? (catalog : Catalog) (fields : Members) (kind : String) : Option Body :=
  let field := fields.text "field"
  match kind with
  | "TermsAgg" => some (.terms field (fields.int "size") (.ofValue (fields.get "sort"))
      (fields.get "missing").present?)
  | "MissingAgg" => some (.missing field)
  | "CardinalityAgg" => some (.cardinality field)
  | "HistogramAgg" =>
    some (.histogram field (fields.double "interval") (fields.double? "offset"))
  | "DateHistogramAgg" => some (.dateHistogram field (fields.text "interval")
      (fields.text? "format") (fields.text? "offset") (fields.text? "time_zone"))
  | "StatsAgg" => some (.stats field)
  | "RangeAgg" => some (.ranges field (spans fields))
  | "DateRangeAgg" =>
    some (.dateRanges field (spans fields) (fields.text? "format") (fields.text? "time_zone"))
  | "GeoHashAgg" => some (.geoHash field (fields.int? "precision") (fields.int? "size"))
  | "GeoCentroidAgg" => some (.geoCentroid field)
  | "GeoBoundsAgg" => some (.geoBounds field)
  | "GeoDistanceAgg" => some (.geoDistance field (.ofFields (fields.get "origin").fields)
      (fields.text? "unit") (spans fields))
  | "FiltersAgg" =>
    some (.filters ((fields.get "filters").fields.map fun m => (m.1, Query.ofValue m.2)))
  | "NativeAgg" =>
    let value := fields.get "value"
    some (.native (match value with
      | .record .. => written catalog .any value
      | v => v))
  | _ => none

mutual

/-- The aggregation that a value is; none if it is of another kind altogether. -/
def ofValue? (catalog : Catalog) : Value → Option Aggregation
  | .record kinds _ fields _ =>
    if kinds.contains "Agg" then
      let body := (kinds.findSome? (Body.ofKind? catalog fields)).getD (.other (kinds.headD ""))
      some (.mk (Members.text fields "key") body (Members.int? fields "min_doc_count")
        (childrenIn catalog fields))
    else none
  | _ => none

def ofItems (catalog : Catalog) : Value → List Aggregation
  | .list vs => ofValues catalog vs
  | _ => []

/-- The aggregations among values. -/
def ofValues (catalog : Catalog) : List Value → List Aggregation
  | [] => []
  | v :: vs =>
    match ofValue? catalog v with
    | some a => a :: ofValues catalog vs
    | none => ofValues catalog vs

/-- The children among the fields of an aggregation. -/
def childrenIn (catalog : Catalog) : List (String × Value) → List Aggregation
  | [] => []
  | (name, v) :: fields => if name = "aggs" then ofItems catalog v else childrenIn catalog fields

end

end Aggregation

end PortableSearch
