import PortableSearch.Value
import PortableSearch.Calendar.Iso

/-! Queries that no engine owns: conditions on documents, and their combination. -/
namespace PortableSearch

/-- A rectangle of longitudes and latitudes. -/
structure Envelope where
  minX : Float
  maxX : Float
  minY : Float
  maxY : Float

/-- The bounds of a range, each of which may be absent. -/
structure Bounds (α : Type) where
  gte : Option α
  gt : Option α
  lte : Option α
  lt : Option α

namespace Bounds
variable {α β : Type}

def map (f : α → β) (b : Bounds α) : Bounds β :=
  ⟨b.gte.map f, b.gt.map f, b.lte.map f, b.lt.map f⟩

/-- The bounds that are there. -/
def toList (b : Bounds α) : List α := [b.gte, b.gt, b.lte, b.lt].filterMap id

end Bounds

/-- A bound of a date range: a moment, a number, or a date-math expression for the engine. -/
inductive Instant where
  | moment (m : Calendar.Moment)
  | int (n : Int)
  | float (x : Float)
  | expression (s : String)

namespace Instant

/-- Whether the engine has to resolve the bound. -/
def isExpression : Instant → Bool
  | expression _ => true
  | _ => false

/-- The bound as it is sent: a moment by its ISO text. -/
def value : Instant → Value
  | moment m => .str m.iso
  | int n => .int n
  | float x => .float x
  | expression s => .str s

def ofValue? : Value → Option Instant
  | .moment m => some (moment m)
  | .int n => some (int n)
  | .float x => some (float x)
  | .str s => some (expression s)
  | _ => none

end Instant

inductive Query where
  /-- All of the queries match. -/
  | all (of : List Query)
  /-- At least one of the queries matches. -/
  | any (of : List Query)
  /-- None of the queries matches. -/
  | none (of : List Query)
  | matchAll
  | term (field : String) (value : Value)
  | terms (field : String) (values : List Value)
  | fullText (field text : String) (operator : Option String)
  | range (field : String) (bounds : Bounds Value)
  | dateRange (field : String) (bounds : Bounds Instant) (timeZone : Option String)
  | regex (field pattern : String)
  | startsWith (field text : String)
  | wildcard (field pattern : String)
  /-- The field is present, or is absent. -/
  | presence (field : String) (expected : Bool)
  | box (field : String) (envelope : Envelope)
  /-- A query in the engine's own query-string language. -/
  | queryString (text : String) (defaultField : Option String) (defaultOperator : String)
  /-- A query of a kind that is not known here. -/
  | other (kind : String)

namespace Query

/-- Whether a date range has a bound that the engine resolves; other queries are none. -/
def hasDateMath? : Query → Option Bool
  | dateRange _ bounds _ => some (bounds.toList.any Instant.isExpression)
  | _ => Option.none

end Query

end PortableSearch
