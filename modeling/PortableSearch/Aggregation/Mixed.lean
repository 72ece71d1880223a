import PortableSearch.Aggregation.Compile
import PortableSearch.Value.Literal

/-! Compiling values among which there may be some that are no aggregations. What such a value has
under `aggs` is compiled before the value itself is refused, so that a fault in it comes first. A
record that has a key and a kind is refused by these. -/
namespace PortableSearch.Aggregation

/-- Why a record that is no aggregation is refused. -/
def refusal (members : Members) : CompileFault :=
  match members.lookup "key", members.lookup "kind" with
  | some key, some kind => .unsupportedAggregation key.display kind.display
  | _, _ => .notAnAggregation

/-- The fault of what stands in the place of a list of aggregations: none if it is empty. -/
def noListFault? : Value → Option CompileFault
  | .record _ _ fields others =>
    if (fields ++ others).isEmpty then none else some .notAnAggregation
  | v =>
    if v.isMissing then none
    else match v with
      | .str _ | .bytes _ | .obj _ | .list _ | .pair .. | .choice .. => some .notAnAggregation
      | _ => some .notAggregations

mutual

/-- The fault of a value in the place of an aggregation. -/
def fault? (catalog : Shape.Catalog) (setting : Setting) : Value → Option CompileFault
  | .record kinds given fields others =>
    match ofValue? catalog (.record kinds given fields others) with
    | some a =>
      match entry setting a with
      | .ok _ => none
      | .error fault => some fault
    | none =>
      let nested := (nestedFault? catalog setting fields).or (nestedFault? catalog setting others)
      match nested with
      | none => some .notAnAggregation
      | some none => some (refusal (fields ++ others))
      | some (some fault) => some fault
  | _ => some .notAnAggregation

/-- The first fault of values in the places of aggregations. -/
def firstFault? (catalog : Shape.Catalog) (setting : Setting) : List Value → Option CompileFault
  | [] => none
  | v :: vs => (fault? catalog setting v).or (firstFault? catalog setting vs)

/-- The fault of what is under `aggs`, if there is such a member. -/
def nestedFault? (catalog : Shape.Catalog) (setting : Setting) :
    List (String × Value) → Option (Option CompileFault)
  | [] => none
  | (name, v) :: ms =>
    if name = Native.nestedMember then
      some (match v with
        | .list vs => firstFault? catalog setting vs
        | v => noListFault? v)
    else nestedFault? catalog setting ms

end

/-- The `aggs` object of values, unless one of them is no aggregation. -/
def compileValues (catalog : Shape.Catalog) (setting : Setting) (vs : List Value) :
    Except CompileFault Members :=
  vs.foldlM (fun entries v =>
    match ofValue? catalog v with
    | some a => (entry setting a).map fun e => entries.put a.key (.obj e)
    | none => .error ((fault? catalog setting v).getD .notAnAggregation)) []

end PortableSearch.Aggregation
