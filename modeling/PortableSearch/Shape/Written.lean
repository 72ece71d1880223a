import PortableSearch.Shape.Catalog

/-! The object that a record is written as: its fields under their outer names, then the members it
keeps, without those that are null. A record in a field of a wider kind is written with the fields
of that kind alone. -/
namespace PortableSearch.Shape

/-- The fields that are written for a record at a type; none if the type does not say. -/
def FieldType.declared? : FieldType → Option (RecordType FieldType)
  | .record type => some type
  | .nullable type => type.declared?
  | .prepared _ type => type.declared?
  | _ => none

/-- The type of the items of a list or the members of an object. -/
def FieldType.element : FieldType → FieldType
  | .list _ type => type
  | .dict type => type
  | .nullable type => type.element
  | .prepared _ type => type.element
  | _ => .any

mutual

/-- Writes a value as it stands at a type. -/
def written (catalog : Catalog) (type : FieldType) : Value → Value
  | .record kinds _ fields others =>
    let declared := type.declared?.getD (Catalog.typeOf (catalog.lineage (kinds.headD "")))
    .obj (Members.compact (writtenFields catalog declared.fields fields ++
      if declared.keepsOthers then writtenMembers catalog .any others else []))
  | .list vs => .list (writtenItems catalog type.element vs)
  | .obj ms => .obj (writtenMembers catalog type.element ms)
  | .pair name v => .pair name (written catalog .any v)
  | v => v

def writtenItems (catalog : Catalog) (type : FieldType) : List Value → List Value
  | [] => []
  | v :: vs => written catalog type v :: writtenItems catalog type vs

def writtenMembers (catalog : Catalog) (type : FieldType) :
    List (String × Value) → List (String × Value)
  | [] => []
  | (n, v) :: ms => (n, written catalog type v) :: writtenMembers catalog type ms

def writtenFields (catalog : Catalog) (declared : List (FieldSpec FieldType)) :
    List (String × Value) → List (String × Value)
  | [] => []
  | (n, v) :: fields =>
    match declared.find? fun f => f.name = n with
    | some f => (f.outerName, written catalog f.type v) :: writtenFields catalog declared fields
    | none => writtenFields catalog declared fields

end

end PortableSearch.Shape
