import PortableSearch.Shape.FieldType

/-! A catalog of kinds of records. A kind may narrow another one: it has the fields of the wider
kind, then its own. -/
namespace PortableSearch.Shape

structure Kind where
  name : String
  /-- The kind that this one narrows. -/
  parent : Option String
  /-- The fields that the wider kind does not have. -/
  fields : List (FieldSpec FieldType)
  keepsOthers : Bool
  /-- Where the member `key` is missing, the member `field` stands for it. -/
  keyedByField : Bool

/-- A field that has to be given. -/
def FieldSpec.required (name : String) (type : FieldType) : FieldSpec FieldType :=
  ⟨name, name, type, none⟩

/-- A field that may be null, and is so by default. -/
def FieldSpec.optional (name : String) (type : FieldType) : FieldSpec FieldType :=
  ⟨name, name, .nullable type, some .null⟩

/-- A field with a value of its own if it is not given. -/
def FieldSpec.preset (name : String) (type : FieldType) (v : Value) : FieldSpec FieldType :=
  ⟨name, name, type, some v⟩

/-- The field under another name outside. -/
def FieldSpec.writtenAs {τ : Type} (outerName : String) (f : FieldSpec τ) : FieldSpec τ :=
  { f with outerName }

/-- A kind that narrows none. -/
def Kind.plain (name : String) (fields : List (FieldSpec FieldType)) : Kind :=
  ⟨name, none, fields, false, false⟩

/-- A kind that narrows another. -/
def Kind.under (parent name : String) (fields : List (FieldSpec FieldType)) : Kind :=
  ⟨name, some parent, fields, false, false⟩

/-- The kind of the records of a type. -/
def RecordType.toKind (type : RecordType FieldType) : Kind :=
  ⟨type.kind, none, type.fields, type.keepsOthers, false⟩

abbrev Catalog := List Kind

namespace Catalog

/-- The kinds from a name up to the widest. Each step goes to another kind of the catalog, so as
many steps suffice as there are kinds. -/
def lineageWithin (catalog : Catalog) (steps : Nat) (name : String) : List Kind :=
  match steps with
  | 0 => []
  | steps + 1 =>
    match catalog.find? fun k => k.name = name with
    | none => []
    | some k => k :: match k.parent with
      | none => []
      | some parent => lineageWithin catalog steps parent

def lineage (catalog : Catalog) (name : String) : List Kind :=
  catalog.lineageWithin catalog.length name

/-- The type of the records of a kind, with the fields of the wider kinds in front. -/
def typeOf (lineage : List Kind) : RecordType FieldType where
  kind := (lineage.head?.map Kind.name).getD ""
  fields := lineage.reverse.flatMap Kind.fields
  keepsOthers := lineage.any Kind.keepsOthers

/-- Members with the member `field` standing for a missing `key`. -/
def keyByField (ms : Members) : Members :=
  match ms.lookup "field" with
  | some v =>
    if !v.isMissing && ((ms.lookup "key").getD .null).isMissing then ms.put "key" v else ms
  | none => ms

/-- Builds a record of a kind from members; none if the catalog does not have the kind. -/
def build? (catalog : Catalog) (name : String) (ms : Members) : Option (Checked Value) :=
  match catalog.lineage name with
  | [] => none
  | lineage =>
    let type := typeOf lineage
    let ms := if lineage.any Kind.keyedByField then keyByField ms else ms
    some ((readRecordFields .data type ms).map
      (buildRecord .data (lineage.map Kind.name) type ms))

end Catalog

end PortableSearch.Shape
