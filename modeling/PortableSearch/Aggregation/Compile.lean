import PortableSearch.Aggregation.Record
import PortableSearch.Aggregation.Interval
import PortableSearch.Aggregation.Span
import PortableSearch.Context

/-! Compiling aggregations into the engine's `aggs` object. An entry has a member of the engine's
type, with the body, and a member `aggs` if there are children, which are compiled first. Of
several aggregations with one key the last counts, at the place of the first. -/
namespace PortableSearch.Aggregation
open Calendar

/-- What the bounds of date ranges resolve against. -/
structure Setting where
  timeZone : Option String
  anchor : Moment
deriving DecidableEq, Repr

/-- The setting of a context, given the current moment. -/
def Setting.ofContext (current : Moment) (c : Context) : Setting := ⟨c.timeZone, c.anchor current⟩

def texts (name : String) (s : Option String) : Members := Members.optional name (s.map Value.str)

def fieldMember (field : String) : String × Value := ("field", .str field)

def spanList (spans : List Span) : String × Value := ("ranges", .list (spans.map Span.body))

def compileFilter (timeZone : Option String) (named : String × Query) :
    Except CompileFault (String × Value) :=
  match Query.compile timeZone named.2 with
  | .ok clause => .ok (named.1, clause.body)
  | .error fault => .error (.unsupportedQuery fault)

/-- What an aggregation is compiled to before its children are added. -/
inductive Content where
  /-- The engine's name for what is computed, and the members of its body. -/
  | typed (type : String) (members : Members)
  /-- A native body, which stands for the whole entry. -/
  | native (members : Members)

/-- The content of a body. -/
def Body.compile (setting : Setting) (key : String) : Body → Except CompileFault Content
  | .terms field size order fallback => .ok (.typed "terms"
      ([fieldMember field, ("size", .int size),
        ("order", .obj [(order.basis.text, .str order.direction.text)])] ++
      Members.optional "missing" fallback))
  | .missing field => .ok (.typed "missing" [fieldMember field])
  | .cardinality field => .ok (.typed "cardinality" [fieldMember field])
  | .histogram field interval offset => .ok (.typed "histogram"
      ([fieldMember field, ("interval", .float interval)] ++
      Members.optional "offset" (offset.map Value.float)))
  | .dateHistogram field interval format offset timeZone =>
    match intervalKind? interval with
    | none => .error (.invalidInterval key interval)
    | some kind => .ok (.typed "date_histogram"
        ([fieldMember field, (kind.member, .str interval)] ++ texts "format" format ++
        texts "offset" offset ++ texts "time_zone" (Context.zoneFor timeZone setting.timeZone)))
  | .stats field => .ok (.typed "stats" [fieldMember field])
  | .ranges field spans => .ok (.typed "range" [fieldMember field, spanList spans])
  | .dateRanges field spans format timeZone => do
    let zone ← resolveZone (Context.zoneFor timeZone setting.timeZone)
    let resolved ← spans.mapM (Span.resolve zone setting.anchor)
    return .typed "date_range" ([fieldMember field] ++ texts "format" format ++ [spanList resolved])
  | .geoHash field precision size => .ok (.typed "geohash_grid"
      ([fieldMember field] ++ Members.optional "precision" (precision.map Value.int) ++
      Members.optional "size" (size.map Value.int)))
  | .geoCentroid field => .ok (.typed "geo_centroid" [fieldMember field])
  | .geoBounds field => .ok (.typed "geo_bounds" [fieldMember field])
  | .geoDistance field origin unit spans => .ok (.typed "geo_distance"
      ([fieldMember field,
        ("origin", .obj [("lat", .float origin.lat), ("lon", .float origin.lon)])] ++
      texts "unit" unit ++ [spanList spans]))
  | .filters queries => do
    let bodies ← queries.mapM (compileFilter setting.timeZone)
    return .typed "filters" [("filters", .obj bodies)]
  | .native value => ((Native.read value).mapError (.native key)).map .native
  | .other kind => .error (.unsupportedAggregation key kind)

/-- Sets the least number of documents of a bucket, if there is one. -/
def withMinDocCount (count : Option Int) (ms : Members) : Members :=
  match count with
  | some n => ms.put "min_doc_count" (.int n)
  | none => ms

/-- The entry of a content, with the entries of the children if there are any. -/
def Content.entry (key : String) (count : Option Int) (nested : Option Members) :
    Content → Except CompileFault Members
  | .typed type members =>
    .ok ((type, .obj (withMinDocCount count members)) ::
      Members.optional Native.nestedMember (nested.map .obj))
  | .native members =>
    match nested with
    | none => .ok (withMinDocCount count members)
    | some ms =>
      ((Native.nest members ms).mapError (.nesting key)).map (withMinDocCount count)

mutual

/-- The entry of an aggregation. -/
def entry (setting : Setting) : Aggregation → Except CompileFault Members
  | mk key body count children => do
    let nested ← compileChildren setting children
    let content ← body.compile setting key
    content.entry key count nested

/-- The entries of children, if there are any. -/
def compileChildren (setting : Setting) : List Aggregation → Except CompileFault (Option Members)
  | [] => .ok none
  | a :: as => do
    let first ← entry setting a
    return some (← compileOnto setting [(a.key, .obj first)] as)

/-- The entries of aggregations, after entries that are there already. -/
def compileOnto (setting : Setting) (entries : Members) :
    List Aggregation → Except CompileFault Members
  | [] => .ok entries
  | a :: as => do
    let next ← entry setting a
    compileOnto setting (entries.put a.key (.obj next)) as

end

/-- The `aggs` object of aggregations. -/
def compileAll (setting : Setting) (aggregations : List Aggregation) :
    Except CompileFault Members :=
  compileOnto setting [] aggregations

end PortableSearch.Aggregation
