/-! Faults of data that does not have the shape it should have. A check reports all faults of its
input, each with the path of names and indexes that leads to it; checks of independent parts are
joined without one hiding the other's faults. -/
namespace PortableSearch.Shape

/-- One step into a value. -/
inductive Step where
  | name (n : String)
  | index (i : Nat)
deriving DecidableEq, Repr

/-- What is wrong with a value. -/
inductive Defect where
  | missing
  | notText
  | notUnicode
  | notInteger
  | unreadableInteger
  | integerTooLarge
  | fractional
  | infinite
  | notDouble
  | unreadableDouble
  | notFlag
  | unreadableFlag
  | notList
  | notObject
  | notRecord
  | notInstance
  | notMoment
  | unreadableMoment
  | unreadableDate
  | notChoice
  | tooShort
  | refused
  | notJson
deriving DecidableEq, Repr

/-- The code of a defect. -/
def Defect.code : Defect → String
  | missing => "missing"
  | notText => "string_type"
  | notUnicode => "string_unicode"
  | notInteger => "int_type"
  | unreadableInteger => "int_parsing"
  | integerTooLarge => "int_parsing_size"
  | fractional => "int_from_float"
  | infinite => "finite_number"
  | notDouble => "float_type"
  | unreadableDouble => "float_parsing"
  | notFlag => "bool_type"
  | unreadableFlag => "bool_parsing"
  | notList => "list_type"
  | notObject => "dict_type"
  | notRecord => "model_type"
  | notInstance => "is_instance_of"
  | notMoment => "datetime_type"
  | unreadableMoment => "datetime_parsing"
  | unreadableDate => "datetime_from_date_parsing"
  | notChoice => "enum"
  | tooShort => "too_short"
  | refused => "value_error"
  | notJson => "json_invalid"

structure Fault where
  path : List Step
  defect : Defect
deriving DecidableEq, Repr

/-- What a check gives: a result, or all faults. -/
abbrev Checked (α : Type) := Except (List Fault) α

namespace Checked
variable {α β : Type}

/-- The result of a check of one value. -/
def ofExcept : Except Defect α → Checked α
  | .ok a => .ok a
  | .error d => .error [⟨[], d⟩]

/-- A single defect of the value itself. -/
def defect (d : Defect) : Checked α := .error [⟨[], d⟩]

/-- The check of a part, seen from the whole. -/
def within (step : Step) : Checked α → Checked α
  | .ok a => .ok a
  | .error faults => .error (faults.map fun f => ⟨step :: f.path, f.defect⟩)

/-- The faults; none where there is a result. -/
def faults : Checked α → List Fault
  | .ok _ => []
  | .error fs => fs

/-- Both results, or the faults of both. -/
def both : Checked α → Checked β → Checked (α × β)
  | .ok a, .ok b => .ok (a, b)
  | a, b => .error (a.faults ++ b.faults)

/-- All results, or all faults in order. -/
def gather : List (Checked α) → Checked (List α)
  | [] => .ok []
  | c :: cs => (both c (gather cs)).map fun p => p.1 :: p.2

/-- Results of numbered parts. -/
def gatherIndexed (cs : List (Checked α)) : Checked (List α) :=
  gather (cs.mapIdx fun i c => within (.index i) c)

/-- Results of named parts, with their names. -/
def gatherNamed (cs : List (String × Checked α)) : Checked (List (String × α)) :=
  gather (cs.map fun c => (within (.name c.1) c.2).map fun a => (c.1, a))

end Checked

end PortableSearch.Shape
