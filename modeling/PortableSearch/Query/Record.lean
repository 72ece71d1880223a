import PortableSearch.Query
import PortableSearch.Query.Kinds

/-! Queries from records. A record of a kind that narrows a known one is a query of the known
kind. -/
namespace PortableSearch

def Envelope.ofFields (fields : Members) : Envelope :=
  ⟨fields.double "min_x", fields.double "max_x", fields.double "min_y", fields.double "max_y"⟩

/-- The bounds in the fields of a range, each read by a function. -/
def Bounds.ofFields {α : Type} (read : Value → Option α) (fields : Members) : Bounds α :=
  ⟨read (fields.get "gte"), read (fields.get "gt"), read (fields.get "lte"), read (fields.get "lt")⟩

namespace Query

/-- The query of a known kind, from its fields and its children. -/
def ofKind? (fields : Members) (children : List Query) (kind : String) : Option Query :=
  let field := fields.text "field"
  let value := fields.text "value"
  match kind with
  | "AndQuery" => some (.all children)
  | "OrQuery" => some (.any children)
  | "NotQuery" => some (.none children)
  | "MatchAllQuery" => some .matchAll
  | "TermQuery" => some (.term field (fields.get "value"))
  | "TermsQuery" => some (.terms field (fields.items "value"))
  | "MatchQuery" => some (.fullText field value (fields.text? "operator"))
  | "RangeQuery" => some (.range field (.ofFields Value.present? fields))
  | "DateRangeQuery" =>
    some (.dateRange field (.ofFields Instant.ofValue? fields) (fields.text? "time_zone"))
  | "RegexQuery" => some (.regex field value)
  | "PrefixQuery" => some (.startsWith field value)
  | "WildcardQuery" => some (.wildcard field value)
  | "ExistsQuery" => some (.presence field (fields.flag "value"))
  | "BboxQuery" => some (.box field (.ofFields (fields.get "value").fields))
  | "LuceneQuery" => some (.queryString (fields.text "query") (fields.text? "default_field")
      (fields.text "default_operator"))
  | _ => Option.none

/-- What a record of unknown kind is called: by the text of its member `kind` if it keeps one. -/
def kindName (kinds : List String) (others : Members) : String :=
  (others.text? "kind").getD (kinds.headD "")

mutual

/-- The query that a value is; a value that is no query is one of unknown kind. -/
def ofValue : Value → Query
  | .record kinds _ fields others =>
    (kinds.findSome? (ofKind? fields (childrenIn fields))).getD (.other (kindName kinds others))
  | v => .other v.typeName

/-- The queries in a list. -/
def ofItems : Value → List Query
  | .list vs => ofValues vs
  | _ => []

def ofValues : List Value → List Query
  | [] => []
  | v :: vs => ofValue v :: ofValues vs

/-- The children among the fields of a query. -/
def childrenIn : List (String × Value) → List Query
  | [] => []
  | (name, v) :: fields => if name = "of" then ofItems v else childrenIn fields

end

end Query

end PortableSearch
