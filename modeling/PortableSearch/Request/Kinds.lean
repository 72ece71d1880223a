import PortableSearch.Aggregation.Kinds

/-! The kinds of search requests and of what goes with them. -/
namespace PortableSearch.Request
open PortableSearch.Shape

def orderType : RecordType FieldType :=
  ⟨"DocSort", [Query.nameField,
    Aggregation.choiceField "direction" Aggregation.directions "ASCENDING"], false⟩

def contextType : RecordType FieldType :=
  ⟨"CompileContext", [.optional "time_zone" .text, .optional "now" .moment], false⟩

/-- The type of requests whose aggregations are plain objects down to a depth. -/
def requestType (depth : Nat) : RecordType FieldType :=
  ⟨"SearchRequest", [.preset "offset" .integer (.int 0), .preset "limit" .integer (.int 50),
    .optional "query" (.record Query.plainType),
    .preset "aggs" (.list false (.record (Aggregation.plainType depth))) (.list []),
    .preset "sorts" (.list false (.record orderType)) (.list []),
    .preset "fields" (.list false .text) (.list []),
    .optional "stored_fields" (.list false .text),
    .preset "params" (.dict .any) (.obj [])], false⟩

def kinds (depth : Nat) : Catalog :=
  [orderType.toKind, contextType.toKind, (requestType depth).toKind]

end PortableSearch.Request
