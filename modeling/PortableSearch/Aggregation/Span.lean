import PortableSearch.Aggregation
import PortableSearch.Aggregation.Fault

/-! The intervals of range aggregations as they are sent. Those of date ranges are resolved: a bound
that is text is date math, and a moment is its milliseconds since 1970. -/
namespace PortableSearch
open Calendar

/-- The object of a span, without what is absent. -/
def Span.body (s : Span) : Value :=
  .obj (Members.compact [("key", Value.ofOption .str s.key), ("from", Value.ofOption id s.start),
    ("to", Value.ofOption id s.stop)])

/-- The number that a bound of a date range means; a bound that is neither text nor a moment stays
as it is. -/
def resolveBound (zone : Zone) (anchor : Moment) : Value → Except CompileFault Value
  | .str s =>
    match DateMath.evaluate zone anchor false s with
    | .ok millis => .ok (.int millis)
    | .error fault => .error (.dateMath s fault)
  | .moment m => .ok (.int m.epochMillis)
  | v => .ok v

/-- A bound that may be absent. -/
def resolveBound? (zone : Zone) (anchor : Moment) :
    Option Value → Except CompileFault (Option Value)
  | some v => (resolveBound zone anchor v).map some
  | none => .ok none

/-- A span with its bounds resolved. -/
def Span.resolve (zone : Zone) (anchor : Moment) (s : Span) : Except CompileFault Span := do
  return ⟨s.key, ← resolveBound? zone anchor s.start, ← resolveBound? zone anchor s.stop⟩

/-- The zone of a name. -/
def resolveZone (name : Option String) : Except CompileFault Zone :=
  (Zone.named name).mapError (.zone (name.getD ""))

end PortableSearch
