import PortableSearch.Engine.Clause
import PortableSearch.Engine.Kinds
import PortableSearch.Query.Record

/-! Clauses from records. A record of no particular kind is no clause, and a clause that contains
one cannot be written. -/
namespace PortableSearch.Engine.Clause

/-- What is said about a record of no particular kind. -/
def unwritableMessage : String := plainType.kind

/-- The clause of a kind, from its fields and the clauses in them by name. -/
def ofKind? (fields : Members) (children : String → Option (List Clause)) (kind : String) :
    Option Clause :=
  let field := fields.text "field"
  let value := fields.text "value"
  let boost := fields.double? "boost"
  match kind with
  | "EsBoolQuery" => do
    return .bool (← children "must") (← children "filter") (← children "should")
      (← children "must_not")
  | "EsMatchAllQuery" => some .matchAll
  | "EsRangeQuery" => some (.range field (.ofFields Value.present? fields) boost
      (fields.text? "format") (fields.text? "time_zone"))
  | "EsTermQuery" => some (.term field value boost)
  | "EsTermsQuery" => some (.terms field ((fields.items "value").filterMap Value.text?) boost)
  | "EsMatchQuery" => some (.fullText field value (fields.text? "operator") boost)
  | "EsWildcardQuery" => some (.wildcard field value)
  | "EsRegexpQuery" => some (.regex field value boost)
  | "EsPrefixQuery" => some (.startsWith field value boost)
  | "EsQueryStringQuery" => some (.queryString (fields.text "query")
      (fields.text? "default_field") (fields.text? "default_operator"))
  | "EsInlineTemplateQuery" =>
    some (.inlineTemplate (fields.text "template") (fields.get "params").fields)
  | "EsStoredTemplateQuery" =>
    some (.storedTemplate (fields.text "id") (fields.get "params").fields)
  | "EsGeoBoundingBoxQuery" => some (.box field (.ofFields (fields.get "bbox").fields))
  | "EsExistsQuery" => some (.present field)
  | _ => none

mutual

def ofValue? : Value → Option Clause
  | .record kinds _ fields _ => kinds.findSome? (ofKind? fields (clausesIn fields))
  | _ => none

def ofItems? : Value → Option (List Clause)
  | .list vs => ofValues? vs
  | _ => some []

def ofValues? : List Value → Option (List Clause)
  | [] => some []
  | v :: vs => do return (← ofValue? v) :: (← ofValues? vs)

/-- The clauses in the field of a name. -/
def clausesIn : List (String × Value) → String → Option (List Clause)
  | [], _ => some []
  | (name, v) :: fields, wanted => if name = wanted then ofItems? v else clausesIn fields wanted

end

end PortableSearch.Engine.Clause
