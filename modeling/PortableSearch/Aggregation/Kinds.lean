import PortableSearch.Query.Kinds

/-! The kinds of aggregation records. Children may be given as plain objects, which stand for an
aggregation of no particular kind; how deep these are nested is a parameter. -/
namespace PortableSearch.Aggregation
open PortableSearch.Shape

/-- The fields that every aggregation has, for children of a given type. -/
def baseFields (child : FieldType) : List (FieldSpec FieldType) :=
  [.required "key" .text, .preset "aggs" (.list false child) (.list []),
    .optional "min_doc_count" .integer]

/-- What a plain object stands for where an aggregation is expected, down to a depth. -/
def plainType : Nat → RecordType FieldType
  | 0 => ⟨"Agg", baseFields .any, false⟩
  | depth + 1 => ⟨"Agg", baseFields (.record (plainType depth)), false⟩

def directions : Options := ⟨"Direction", [("ASCENDING", "asc"), ("DESCENDING", "desc")]⟩

def sortTypes : Options := ⟨"SortType", [("COUNT", "count"), ("LEXICAL", "lexical")]⟩

/-- A field with a choice of options, and the name of the one that it has if it is not given. -/
def choiceField (name : String) (options : Options) (preset : String) : FieldSpec FieldType :=
  .preset name (.choice options) (options.value preset)

def sortType : RecordType FieldType :=
  ⟨"AggSort", [choiceField "type" sortTypes "COUNT",
    choiceField "direction" directions "DESCENDING"], false⟩

def rangeType : RecordType FieldType :=
  ⟨"Range", [.optional "key" .text, (FieldSpec.optional "from_" .any).writtenAs "from",
    .optional "to" .any], false⟩

def coordinateType : RecordType FieldType :=
  ⟨"Coordinate", ["lon", "lat"].map fun n => .required n .double, false⟩

def rangesField : FieldSpec FieldType :=
  .preset "ranges" (.list false (.record rangeType)) (.list [])

/-- The kinds, with plain children nested to a depth. -/
def kinds (depth : Nat) : Catalog :=
  [(plainType depth).toKind, sortType.toKind, rangeType.toKind, coordinateType.toKind,
    ⟨"FieldAgg", some "Agg", [Query.nameField], false, true⟩,
    .under "FieldAgg" "TermsAgg" [.preset "size" .integer (.int 10),
      .optional "sort" (.record sortType), .optional "missing" .any],
    .under "FieldAgg" "MissingAgg" [],
    .under "FieldAgg" "CardinalityAgg" [],
    .under "FieldAgg" "HistogramAgg" [.required "interval" .double,
      .optional "offset" .double],
    .under "FieldAgg" "DateHistogramAgg" [.required "interval" .text, .optional "format" .text,
      .optional "offset" .text, .optional "time_zone" .text],
    .under "FieldAgg" "StatsAgg" [],
    .under "FieldAgg" "RangeAgg" [rangesField],
    .under "FieldAgg" "DateRangeAgg" [rangesField, .optional "format" .text,
      .optional "time_zone" .text],
    .under "FieldAgg" "GeoHashAgg" [.optional "precision" .integer, .optional "size" .integer],
    .under "FieldAgg" "GeoCentroidAgg" [],
    .under "FieldAgg" "GeoBoundsAgg" [],
    .under "FieldAgg" "GeoDistanceAgg" [.required "origin" (.record coordinateType),
      .optional "unit" .text, rangesField],
    .under "Agg" "FiltersAgg" [.required "filters" (.dict (.record Query.plainType))],
    .under "Agg" "NativeAgg" [.required "value" .any]]

end PortableSearch.Aggregation
