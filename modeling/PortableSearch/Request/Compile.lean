import PortableSearch.Request.Record
import PortableSearch.Aggregation.Compile
import PortableSearch.Engine.Request
import PortableSearch.Context.Params
import PortableSearch.Text.Ascending

/-! Compiling a request into the engine's: the query, then the aggregations, both in one context.
The context is given with the request or derived from its parameters. -/
namespace PortableSearch.Request

/-- Why a request has no body. -/
inductive Fault where
  /-- The parameters of the request make no context. -/
  | context (faults : List Shape.Fault)
  | compile (fault : CompileFault)
deriving DecidableEq, Repr

/-- The clause of the query, if the request has one. -/
def compileQuery (timeZone : Option String) :
    Option Query → Except CompileFault (Option Engine.Clause)
  | none => .ok none
  | some q =>
    match Query.compile timeZone q with
    | .ok clause => .ok (some clause)
    | .error fault => .error (.unsupportedQuery fault)

def orderPair (o : DocumentOrder) : List (String × String) := [(o.field, o.direction.text)]

/-- The engine's request in a context; `now` is the current moment unless the context says what it
is. -/
def compileIn (current : Calendar.Moment) (context : Context) (r : Request) :
    Except CompileFault Engine.Request := do
  let query ← compileQuery context.timeZone r.query
  let aggregations ← Aggregation.compileAll (.ofContext current context) r.aggregations
  return { start := r.offset
           size := r.limit.getD standardLimit
           query
           source := Text.ascending r.fields
           aggregations
           sort := r.orders.map orderPair
           storedFields := r.storedFields.getD [] }

/-- The context of a request: the given one, or what its parameters ask for. -/
def contextFor (fallbackZone : Option String) (given : Option Context) (r : Request) :
    Shape.Checked Context :=
  match given with
  | some c => .ok c
  | none => Context.ofParams r.params fallbackZone .null

/-- The engine's request. -/
def compile (current : Calendar.Moment) (fallbackZone : Option String) (given : Option Context)
    (r : Request) : Except Fault Engine.Request := do
  let context ← (r.contextFor fallbackZone given).mapError .context
  (r.compileIn current context).mapError .compile

end PortableSearch.Request
