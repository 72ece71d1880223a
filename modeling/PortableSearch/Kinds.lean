import PortableSearch.Engine.Kinds
import PortableSearch.Reply.Kinds
import PortableSearch.Request.Kinds
import PortableSearch.Settings.Kinds
import PortableSearch.Shape.Written

/-! All kinds of records, and building a record from its members. -/
namespace PortableSearch
open Shape

/-- All kinds, with plain aggregations nested to a depth. -/
def standardKinds (depth : Nat) : Catalog :=
  Query.kinds ++ Aggregation.kinds depth ++ Engine.kinds ++ Reply.kinds ++ Request.kinds depth ++
    [Settings.settingsType.toKind]

/-- Builds a record of a standard kind, or of one of the further kinds that a caller has. -/
def buildRecord? (further : Catalog) (name : String) (ms : Members) : Option (Checked Value) :=
  (standardKinds (Value.obj ms).depth ++ further).build? name ms

end PortableSearch
