import PortableSearch.Value.Parser
import PortableSearch.Value.Json
import PortableSearch.Text.Encoding
import PortableSearch.Shape.FieldType
import PortableSearch.Decimal.Whole

/-! Native bodies: an object, or the JSON text of one as a string or as bytes. A body is taken as
it is; nested aggregations are added to those that it names itself under `aggs`. -/
namespace PortableSearch.Aggregation.Native
open PortableSearch.Shape (fieldPairs)

/-- The member with the nested aggregations. -/
def nestedMember : String := "aggs"

/-- Why a value is no native body. -/
inductive Defect where
  /-- The value is neither an object nor text. -/
  | unsupportedType (name : String)
  /-- The text is that of another value. -/
  | notObject (name : String)
  /-- The text is no JSON. -/
  | unreadable
deriving DecidableEq, Repr

def Defect.reason? : Defect → Option String
  | unsupportedType name => some ("unsupported value type " ++ name)
  | notObject name => some ("expected an object, got " ++ name)
  | unreadable => none

/-- The message for a body; a text that is not read has none. -/
def Defect.message? (key : String) (d : Defect) : Option String :=
  d.reason?.map fun r => "Native aggregation '" ++ key ++ "' is not a JSON object: " ++ r

/-- Native text may be nested as deep as it is long, and half a surrogate pair is no error in it. -/
def dialect (length : Nat) : Value.Parser.Dialect where
  depth := length
  toleratesHalfPairs := true
  countsSigns := false
  keepsRepeats := false

/-- The object that a JSON text writes. -/
def readText (cs : List Char) : Except Defect Members :=
  match Value.Parser.parse? (dialect cs.length) cs with
  | some (.obj ms) => .ok ms
  | some v => .error (.notObject v.typeName)
  | none => .error .unreadable

/-- The members of a native body. -/
def read : Value → Except Defect Members
  | .obj ms => .ok ms
  | .record _ _ fields others => .ok (fields ++ others)
  | .str s => readText s.toList
  | .bytes b =>
    match Text.Encoding.decode? b.toList with
    | some cs => readText cs
    | none => .error .unreadable
  | v => .error (.unsupportedType v.typeName)

/-- Why nested aggregations cannot be added to what a body names itself. -/
inductive NestingDefect where
  /-- It is neither an object nor a list of pairs. -/
  | notPairs
  /-- It is a list of something else than pairs. -/
  | wrongLength
deriving DecidableEq, Repr

/-- Whether a value can be the first of a pair. Of pairs, the inner values count; lists, objects and
records cannot. -/
def isKey : Value → Bool
  | .list _ | .obj _ | .record .. => false
  | .pair _ v => isKey v
  | _ => true

/-- The number that a value is equal to, if it is one. -/
def numberOf? : Value → Option Decimal.Whole
  | .bool b => some (.integer (if b then 1 else 0))
  | .int n => some (.integer n)
  | .float x => some (Decimal.Whole.ofFloat x)
  | _ => none

/-- Whether two keys are the same. Flags, integers and doubles are compared as numbers. -/
def sameKey (a b : Value) : Bool :=
  match numberOf? a, numberOf? b with
  | some (.integer n), some (.integer m) => n = m
  | some _, some _ =>
    match a, b with
    | .float x, .float y => x == y
    | _, _ => false
  | none, none =>
    match a, b with
    | .null, .null => true
    | .bytes x, .bytes y => x.data = y.data
    | .moment x, .moment y => x = y
    | _, _ => a.text?.isSome && a.text? = b.text?
  | _, _ => false

/-- The pairs with a value set for a key: at the first place of the key, which stays as it is. -/
def setPair (key v : Value) : List (Value × Value) → List (Value × Value)
  | [] => [(key, v)]
  | p :: ps => if sameKey p.1 key then (p.1, v) :: ps else p :: setPair key v ps

def pair (key v : Value) : Except NestingDefect (Value × Value) :=
  if isKey key then .ok (key, v) else .error .notPairs

/-- The pair of two items. -/
def pairOfItems : List Value → Except NestingDefect (Value × Value)
  | [key, v] => pair key v
  | _ => .error .wrongLength

/-- What a value is made of, one after the other: the items of a list, the names of an object, the
characters of a text, the bytes, the fields of a record. -/
def parts? : Value → Option (List Value)
  | .list vs => some vs
  | .obj ms => some (ms.map fun m => .str m.1)
  | .str s | .choice _ _ s => some (s.toList.map fun c => .str c.toString)
  | .bytes b => some (b.toList.map fun n => .int n.toNat)
  | .pair name v => some [.str name, v]
  | .record _ _ fields others => some (fieldPairs (fields ++ others))
  | _ => none

/-- The pair that an item of a list is, if it has two parts. -/
def readPair (v : Value) : Except NestingDefect (Value × Value) :=
  match parts? v with
  | some vs => pairOfItems vs
  | none => .error .notPairs

def textPairs (ms : Members) : List (Value × Value) := ms.map fun m => (.str m.1, m.2)

/-- The nested aggregations that a body names itself; a missing value names none. -/
def readNested (v : Value) : Except NestingDefect (List (Value × Value)) :=
  if v.isMissing then .ok []
  else match v with
    | .obj ms => .ok (textPairs ms)
    | .record _ _ fields others => .ok (textPairs (fields ++ others))
    | v =>
      match parts? v with
      | some vs => vs.foldlM (fun ps v => (readPair v).map fun p => setPair p.1 p.2 ps) []
      | none => .error .notPairs

/-- The name that a key is written as; what is neither a text nor a number nor null has none. -/
def keyName? : Value → Option String
  | .str s | .choice _ _ s => some s
  | .null => some "null"
  | .bool b => some (if b then "true" else "false")
  | .int n => some (toString n)
  | .float x => some (Value.jsonFloat.render x)
  | _ => none

/-- Pairs as members. Different keys may have the same name. -/
def namePairs (ps : List (Value × Value)) : Except NestingDefect Members :=
  ps.mapM fun p =>
    match keyName? p.1 with
    | some name => .ok (name, p.2)
    | none => .error .notPairs

/-- Adds nested aggregations to a body: each in the place of one of its name, or after the
others. -/
def nest (body nested : Members) : Except NestingDefect Members := do
  let own ← readNested (body.get nestedMember)
  let all := nested.foldl (fun ps m => setPair (.str m.1) m.2 ps) own
  return body.put nestedMember (.obj (← namePairs all))

end PortableSearch.Aggregation.Native
