import PortableSearch.Query.Compile
import PortableSearch.Aggregation.Native
import PortableSearch.Calendar.DateMath

/-! Why a request cannot be compiled. -/
namespace PortableSearch

/-- The fault of the first part of a request that cannot be compiled. -/
inductive CompileFault where
  | unsupportedQuery (fault : Query.UnsupportedKind)
  | unsupportedAggregation (key kind : String)
  /-- Something else stands where an aggregation should. -/
  | notAnAggregation
  /-- Something that has no items stands where aggregations should. -/
  | notAggregations
  /-- A date histogram over a multiple of a calendar unit. -/
  | invalidInterval (key interval : String)
  | zone (name : String) (fault : Calendar.Zone.NameFault)
  /-- The bound of a date range does not resolve. -/
  | dateMath (expression : String) (fault : Calendar.DateMath.Fault)
  | native (key : String) (defect : Aggregation.Native.Defect)
  | nesting (key : String) (defect : Aggregation.Native.NestingDefect)
deriving DecidableEq, Repr

/-- The message of a fault, where it has one. -/
def CompileFault.message? : CompileFault → Option String
  | unsupportedQuery fault => some fault.message
  | unsupportedAggregation key kind =>
    some ("Unsupported aggregation type: key = " ++ key ++ ", op = " ++ kind)
  | notAnAggregation | notAggregations => none
  | invalidInterval key interval =>
    some ("Date histogram '" ++ key ++ "': interval '" ++ interval ++
      "' is a multiple of a calendar unit; " ++
      "only single calendar units (1w, 1M, 1q, 1y) are supported")
  | zone name fault => fault.message? name
  | dateMath expression (.malformed reason) => some (reason.message expression)
  | dateMath _ _ => none
  | native key defect => defect.message? key
  | nesting _ _ => none

end PortableSearch
