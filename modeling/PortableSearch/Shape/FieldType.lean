import PortableSearch.Shape.Scalar
import PortableSearch.Value.Literal

/-! The types of fields, and reading a value at a type. A record is read field by field: a member
counts under the name by which the field is written outside or, if that is absent, under the
field's own name; a field that is not given takes its fallback. All faults are reported, in the
order of the fields, of the items of a list and of the members of an object. -/
namespace PortableSearch.Shape

/-- A field of a record. -/
structure FieldSpec (τ : Type) where
  name : String
  /-- The name by which the field is written outside. -/
  outerName : String
  type : τ
  /-- The value of a field that is not given; none if it has to be given. -/
  fallback : Option Value

/-- A kind of record, as other records refer to it. -/
structure RecordType (τ : Type) where
  kind : String
  fields : List (FieldSpec τ)
  /-- Members that are not fields are kept. -/
  keepsOthers : Bool

/-- What is done to a value before it is read. -/
inductive Preparation where
  /-- An object stands for the number in its member `value`. -/
  | count
  /-- A value other than null and a text is written as text. -/
  | display
  /-- An object of objects is the list of these, each with its name as member `key`. -/
  | keyedList
deriving DecidableEq, Repr

/-- The options of a choice, each by its own name and its text. -/
structure Options where
  type : String
  named : List (String × String)

/-- The option of a text. -/
def Options.find? (options : Options) (text : String) : Option Value :=
  (options.named.find? fun o => o.2 = text).map fun o => .choice options.type o.1 o.2

/-- The option of a name as a value; null where there is none. -/
def Options.value (options : Options) (name : String) : Value :=
  ((options.named.lookup name).map fun text => .choice options.type name text).getD .null

inductive FieldType where
  | any
  | text
  | integer
  | double
  | flag
  | moment
  /-- A moment, a number or a text. -/
  | instant
  | choice (options : Options)
  /-- A thing that has no data form. -/
  | instanceOnly
  | nullable (type : FieldType)
  | list (nonempty : Bool) (type : FieldType)
  | dict (type : FieldType)
  | record (type : RecordType FieldType)
  | prepared (preparation : Preparation) (type : FieldType)

/-- A bucket with its name set as its key; other values stay as they are. -/
def withKey (name : String) : Value → Value
  | .obj ms => .obj (Members.put ms "key" (.str name))
  | v => v

def Preparation.apply : Preparation → Value → Except Defect Value
  | count, .obj ms => .ok ((ms.lookup "value").getD (.int 0))
  | display, .null => .ok .null
  | display, v => .ok (.str v.display)
  | keyedList, .null => .ok .null
  | keyedList, .list vs => .ok (.list vs)
  | keyedList, .obj ms => .ok (.list (ms.map fun m => withKey m.1 m.2))
  | keyedList, _ => .error .refused
  | count, v => .ok v

/-- The name under which a field is found among members. -/
def FieldSpec.nameIn {τ : Type} (f : FieldSpec τ) (ms : Members) : Option String :=
  if ms.names.contains f.outerName then some f.outerName
  else if ms.names.contains f.name then some f.name
  else none

/-- The names of the fields that are found among members. -/
def givenNames {τ : Type} (fields : List (FieldSpec τ)) (ms : Members) : List String :=
  (fields.filter fun f => (f.nameIn ms).isSome).map FieldSpec.name

/-- The members that no field uses, in order. -/
def unusedMembers {τ : Type} (fields : List (FieldSpec τ)) (ms : Members) : Members :=
  let used := fields.filterMap fun f => f.nameIn ms
  ms.filter fun m => !used.contains m.1

/-- What a record is as a list: its fields. -/
def fieldPairs (fields : Members) : List Value :=
  fields.map fun m => .pair m.1 m.2

/-- The faults of what is no instant: one for each of the four forms it might have had. -/
def instantFaults (moment integer double text : Defect) : List Fault :=
  [⟨[.name "datetime"], moment⟩, ⟨[.name "int"], integer⟩, ⟨[.name "float"], double⟩,
    ⟨[.name "str"], text⟩]

/-- An instant that bytes write: a moment, an integer, a double, or else a text. -/
def instantOfBytes (b : ByteArray) : Checked Value :=
  match String.fromUTF8? b with
  | none =>
    .error (instantFaults .unreadableDate .unreadableInteger .unreadableDouble .notUnicode)
  | some s =>
    match momentOfText s.toList, integerOfText s.toList, doubleOfText? s.toList with
    | .ok m, _, _ => .ok (.moment m)
    | _, .ok n, _ => .ok (.int n)
    | _, _, some x => .ok (.float x)
    | _, _, none => .ok (.str s)

/-- An instant: a flag counts as a number, and a text stays as it is. -/
def readInstant : Value → Checked Value
  | .moment m => .ok (.moment m)
  | .int n => .ok (.int n)
  | .bool b => .ok (.int (if b then 1 else 0))
  | .float x => .ok (.float x)
  | .str s => .ok (.str s)
  | .bytes b => instantOfBytes b
  | _ => .error (instantFaults .notMoment .notInteger .notDouble .notText)

def readChoice (options : Options) (v : Value) : Except Defect Value :=
  match readText v with
  | .ok s => (options.find? s).elim (.error .notChoice) .ok
  | .error _ => .error .notChoice

/-- The record of a kind with the fields read and the members that are kept. -/
def buildRecord (source : Source) (kinds : List String) (type : RecordType FieldType)
    (ms : Members) (fields : Members) : Value :=
  let others := if type.keepsOthers then unusedMembers type.fields ms else []
  .record kinds (givenNames type.fields ms ++ others.names) fields
    (others.map fun m => (m.1, source.settle m.2))

mutual

/-- Reads a value at a type. Where a text repeats the name of a member, a dictionary reads each
value that the name has and keeps the last, and all else knows only the last. -/
def FieldType.read (source : Source) : FieldType → Value → Checked Value
  | .any, v => .ok (source.settle v)
  | .text, v => .ofExcept ((readText v).map .str)
  | .integer, v => .ofExcept ((readInteger v).map .int)
  | .double, v => .ofExcept ((readDouble source v).map .float)
  | .flag, v => .ofExcept ((readFlag source v).map .bool)
  | .moment, v => .ofExcept ((readMoment v).map .moment)
  | .instant, v => readInstant v
  | .choice options, v => .ofExcept (readChoice options v)
  | .instanceOnly, _ => .defect .notInstance
  | .nullable type, v => match v with
    | .null => .ok .null
    | v => type.read source v
  | .list nonempty type, v => match v with
    | .list vs =>
      if nonempty && vs.isEmpty then .defect .tooShort
      else (Checked.gatherIndexed (vs.map fun v => type.read source v)).map .list
    | .record _ _ fields others =>
      let pairs := fieldPairs (fields ++ others)
      if nonempty && pairs.isEmpty then .defect .tooShort
      else (Checked.gatherIndexed (pairs.map fun v => type.read source v)).map .list
    | _ => .defect .notList
  | .dict type, v => match v with
    | .obj ms =>
      (Checked.gatherNamed (ms.map fun m => (m.1, type.read source m.2))).map fun ms =>
        .obj (source.lastOfEach ms)
    | _ => .defect .notObject
  | .record type, v => match v with
    | .obj ms =>
      let ms := source.lastOfEach ms
      (readRecordFields source type ms).map (buildRecord source [type.kind] type ms)
    | .record kinds given fields others =>
      if kinds.contains type.kind then .ok (.record kinds given fields others)
      else .defect .notRecord
    | _ => .defect .notRecord
  | .prepared preparation type, v => match preparation.apply (source.settle v) with
    | .ok v => type.read .data v
    | .error d => .defect d

/-- Reads the fields of a kind of record. -/
def readRecordFields (source : Source) : RecordType FieldType → Members → Checked Members
  | ⟨_, fields, _⟩, ms => readFields source fields ms

/-- Reads fields in declaration order. -/
def readFields (source : Source) : List (FieldSpec FieldType) → Members → Checked Members
  | [], _ => .ok []
  | f :: fields, ms =>
    (Checked.both (readField source f ms) (readFields source fields ms)).map fun p => p.1 :: p.2

/-- Reads one field, with its name. -/
def readField (source : Source) : FieldSpec FieldType → Members → Checked (String × Value)
  | ⟨name, outerName, type, fallback⟩, ms =>
    let read (found : String) (v : Value) : Checked (String × Value) :=
      (Checked.within (.name found) (type.read source v)).map fun r => (name, r)
    match ms.lookup outerName, ms.lookup name, fallback with
    | some v, _, _ => read outerName v
    | none, some v, _ => read name v
    | none, none, some v => .ok (name, v)
    | none, none, none => .error [⟨[.name outerName], .missing⟩]

end

end PortableSearch.Shape
