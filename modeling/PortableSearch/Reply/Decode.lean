import PortableSearch.Reply.Record
import PortableSearch.Value.Parser

/-! Decoding a reply. It comes as data, as JSON text in a string or in bytes, or inside the response
object of a client. -/
namespace PortableSearch.Reply
open Shape

/-- A reply as a transport hands it over. -/
inductive Raw where
  /-- An object, or a text or bytes that hold one. -/
  | data (v : Value)
  /-- A response object of some type, with an object as its body. -/
  | response (typeName : String) (body : Value)

/-- Why a reply cannot be decoded. -/
inductive Malformed where
  | unsupported (typeName : String)
  | invalid (faults : List Fault)
deriving DecidableEq, Repr

/-- The message for a reply of no supported type; faults have none. -/
def Malformed.message? : Malformed → Option String
  | unsupported typeName => some ("Malformed search reply: unsupported reply type " ++ typeName)
  | invalid _ => none

/-- The text of a reply may be nested to a depth, half a surrogate pair is an error in it, the
sign of a number counts as part of its length, and names may be repeated. -/
def dialect : Value.Parser.Dialect where
  depth := 200
  toleratesHalfPairs := false
  countsSigns := true
  keepsRepeats := true

/-- The record of a reply. -/
def check (source : Source) (v : Value) : Except Malformed Value :=
  ((FieldType.record resultType).read source v).mapError .invalid

/-- The record of a reply in text. -/
def checkText (cs : List Char) : Except Malformed Value :=
  match Value.Parser.parse? dialect cs with
  | some v => check .text v
  | none => .error (.invalid [⟨[], .notJson⟩])

/-- The record of a reply. -/
def checkRaw : Raw → Except Malformed Value
  | .data (.str s) => checkText s.toList
  | .data (.bytes b) =>
    match String.fromUTF8? b with
    | some s => checkText s.toList
    | none => .error (.invalid [⟨[], .notJson⟩])
  | .data (.obj ms) => check .data (.obj ms)
  | .data v => .error (.unsupported v.typeName)
  | .response _ (.obj ms) => check .data (.obj ms)
  | .response typeName _ => .error (.unsupported typeName)

/-- The result that a reply holds. -/
def decode (raw : Raw) : Except Malformed SearchResult :=
  (checkRaw raw).map SearchResult.ofRecord

end PortableSearch.Reply
