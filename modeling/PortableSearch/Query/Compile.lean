import PortableSearch.Engine.Clause
import PortableSearch.Context
import PortableSearch.Value.Literal

/-! Compiling a query into a clause of the engine. -/
namespace PortableSearch.Query
open PortableSearch.Engine

/-- A query of a kind that has no clause. -/
structure UnsupportedKind where
  kind : String
deriving DecidableEq, Repr

def UnsupportedKind.message (fault : UnsupportedKind) : String :=
  "Unsupported query type: " ++ fault.kind

/-- The text that a value is compared as. -/
def termText : Value → String
  | .bool true => "true"
  | .bool false => "false"
  | .null => "null"
  | v => v.display

/-- The time zone sent with a date range: only date math needs one. -/
def zoneOfRange (bounds : Bounds Instant) (own shared : Option String) : Option String :=
  if bounds.toList.any Instant.isExpression then Context.zoneFor own shared else Option.none

mutual

/-- The clause of a query. The time zone is that of date ranges that name none. -/
def compile (timeZone : Option String) : Query → Except UnsupportedKind Clause
  | all of => return .bool (← compileAll timeZone of) [] [] []
  | any of => return .bool [] [] (← compileAll timeZone of) []
  | none of => return .bool [] [] [] (← compileAll timeZone of)
  | matchAll => .ok .matchAll
  | term field value => .ok (.term field (termText value) Option.none)
  | terms field values => .ok (.terms field (values.map termText) Option.none)
  | fullText field text operator => .ok (.fullText field text operator Option.none)
  | regex field pattern => .ok (.regex field pattern Option.none)
  | startsWith field text => .ok (.startsWith field text Option.none)
  | range field bounds => .ok (.range field bounds Option.none Option.none Option.none)
  | dateRange field bounds own =>
    .ok (.range field (bounds.map Instant.value) Option.none Option.none
      (zoneOfRange bounds own timeZone))
  | box field envelope => .ok (.box field envelope)
  | presence field true => .ok (.present field)
  | presence field false => .ok (.bool [] [] [] [.present field])
  | wildcard field pattern => .ok (.wildcard field pattern)
  | queryString text defaultField defaultOperator =>
    .ok (.queryString text defaultField (some defaultOperator))
  | other kind => .error ⟨kind⟩

/-- The clauses of queries, up to the first that has none. -/
def compileAll (timeZone : Option String) : List Query → Except UnsupportedKind (List Clause)
  | [] => .ok []
  | q :: qs => return (← compile timeZone q) :: (← compileAll timeZone qs)

end

end PortableSearch.Query
