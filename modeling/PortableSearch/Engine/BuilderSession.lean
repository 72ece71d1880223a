import PortableSearch.Engine.Builder

/-! A session over builders that have names. A builder is empty before it is used first. -/
namespace PortableSearch.Engine

/-- A body to be added, of a type and with values as they are given. -/
inductive Draft where
  | plain (type : String)
  | terms (field size : Value) (sortType sortDirection : String) (missing : Value)
  /-- A type that needs the field alone. -/
  | onField (type : String) (field : Value)
  | histogram (field interval offset : Value)
  | dateHistogram (field : Value) (intervalName : String) (interval format offset timeZone : Value)

namespace Draft

/-- Sets a member unless its value is null. -/
def setPresent (name : String) (v : Value) (ms : Members) : Members :=
  match v with
  | .null => ms
  | v => ms.put name v

/-- The orders of buckets by their texts. -/
def knownBases : List String := [Aggregation.SortBasis.key.text, Aggregation.SortBasis.count.text]
def knownDirections : List String := [Direction.ascending.text, Direction.descending.text]

/-- The type of a draft and the members of its body. -/
def body : Draft → Except Builder.Fault (String × Members)
  | plain type => .ok (type, [])
  | terms field size sortType sortDirection missing =>
    if knownBases.contains sortType && knownDirections.contains sortDirection then
      .ok ("terms", setPresent "missing" missing
        [("field", field), ("size", size), ("order", .obj [(sortType, .str sortDirection)])])
    else .error .unknownOrder
  | onField type field => .ok (type, [("field", field)])
  | histogram field interval offset =>
    .ok ("histogram", setPresent "offset" offset [("field", field), ("interval", interval)])
  | dateHistogram field intervalName interval format offset timeZone =>
    let start : Members := Members.put [("field", field)] intervalName interval
    .ok ("date_histogram", setPresent "time_zone" timeZone
      (setPresent "offset" offset (setPresent "format" format start)))

end Draft

/-- What can be done with a builder. -/
inductive Command where
  /-- Adds a draft under a name, with the entries of another builder nested in it. -/
  | add (name : String) (draft : Draft) (nested : Option String)
  | put (name : String) (entry : Value)
  | get (name : String)
  | set (member : String) (v : Value)
  /-- Sets the least number of documents, unless it is null. -/
  | minDocCount (v : Value)
  | size
  | contains (name : String)
  | names
  | written

/-- The builders of a session by their names. -/
abbrev BuilderSession := List (String × Builder)

namespace BuilderSession

def builder (s : BuilderSession) (name : String) : Builder := (s.lookup name).getD .empty

def put (s : BuilderSession) (name : String) (b : Builder) : BuilderSession :=
  (name, b) :: s.filter fun p => p.1 != name

/-- A changed builder with its last body as the result. -/
def returning (b : Builder) : Except Builder.Fault (Value × Builder) :=
  b.lastBody.map fun v => (v, b)

/-- The result of a command and the builder after it. -/
def result (s : BuilderSession) (b : Builder) : Command → Except Builder.Fault (Value × Builder)
  | .add name draft nested => do
    let (type, body) ← draft.body
    let inner := (nested.map fun n => (s.builder n).entries).getD []
    returning (b.add name type inner body)
  | .put name entry => returning (b.putEntry name entry)
  | .get name => b.lookUp name >>= returning
  | .set member v => b.setMember member v >>= returning
  | .minDocCount .null => returning b
  | .minDocCount v => b.setMember "min_doc_count" v >>= returning
  | .size => .ok (.int b.entries.length, b)
  | .contains name => .ok (.bool (b.entries.names.contains name), b)
  | .names => .ok (.list (b.entries.names.map .str), b)
  | .written => .ok (.obj b.entries, b)

/-- Runs a command on the builder of a name. A command that fails changes nothing. -/
def run (s : BuilderSession) (name : String) (c : Command) :
    Except Builder.Fault Value × BuilderSession :=
  match s.result (s.builder name) c with
  | .ok (v, b) => (.ok v, s.put name b)
  | .error f => (.error f, s)

end BuilderSession

end PortableSearch.Engine
