import PortableSearch.Request
import PortableSearch.Aggregation.Record
import PortableSearch.Kinds

/-! Search requests from records. -/
namespace PortableSearch
open Shape

def DocumentOrder.ofFields (fields : Members) : DocumentOrder :=
  ⟨fields.text "field", .ofText (fields.text "direction")⟩

namespace Request

/-- The request of a record; a limit counts if it was given. -/
def ofFields (catalog : Catalog) (given : List String) (fields : Members) : Request where
  offset := fields.int "offset"
  limit := if given.contains "limit" then some (fields.int "limit") else none
  query := (fields.get "query").present?.map Query.ofValue
  aggregations := Aggregation.ofItems catalog (fields.get "aggs")
  orders := (fields.items "sorts").map fun v => .ofFields v.fields
  fields := (fields.items "fields").filterMap Value.text?
  storedFields := (fields.get "stored_fields").present?.map fun v => v.items.filterMap Value.text?
  params := (fields.get "params").fields

/-- The request of members, read as the record of a request. -/
def ofMembers (further : Catalog) (ms : Members) : Checked Request :=
  let depth := (Value.obj ms).depth
  let type := requestType depth
  (readRecordFields .data type ms).map fun fields =>
    ofFields (standardKinds depth ++ further) (givenNames type.fields ms) fields

end Request

end PortableSearch
