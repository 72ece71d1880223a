import PortableSearch.Aggregation
import PortableSearch.Aggregation.Native

/-! Builders of an `aggs` object, entry by entry. The body that was added or looked up last can be
extended, and the entry changes with it. A builder that is nested in an entry of another is copied,
so that later changes to it are not seen there. -/
namespace PortableSearch.Engine

/-- The body that a builder returned last. -/
inductive Cursor where
  /-- A whole entry. -/
  | entry (name : String)
  /-- The body under a type in an entry. -/
  | body (name type : String)
  /-- A body whose place in its entry was taken by nested aggregations. -/
  | detached (v : Value)

structure Builder where
  entries : Members
  last : Option Cursor

namespace Builder

inductive Fault where
  /-- No entry has the name. -/
  | noEntry
  /-- No body has been returned yet. -/
  | noBody
  /-- The body is no object and cannot be extended. -/
  | notObject
  /-- The order of buckets is not one of the known ones. -/
  | unknownOrder
deriving DecidableEq, Repr

def empty : Builder := ⟨[], none⟩

/-- Adds an entry with a body under a type; nested aggregations follow if there are any. -/
def add (name type : String) (nested body : Members) (b : Builder) : Builder :=
  let entry : Members := [(type, .obj body)]
  if nested.isEmpty then ⟨b.entries.put name (.obj entry), some (.body name type)⟩
  else
    ⟨b.entries.put name (.obj (entry.put Aggregation.Native.nestedMember (.obj nested))),
      some (if type = Aggregation.Native.nestedMember then .detached (.obj body)
        else .body name type)⟩

/-- Adds an entry as it is. -/
def putEntry (name : String) (entry : Value) (b : Builder) : Builder :=
  ⟨b.entries.put name entry, some (.entry name)⟩

/-- The value at a cursor. -/
def valueAt (b : Builder) : Cursor → Value
  | .entry name => b.entries.get name
  | .body name type => (b.entries.get name).fields.get type
  | .detached v => v

/-- The builder with another value at its cursor. -/
def replaceAt (b : Builder) (v : Value) : Cursor → Builder
  | .entry name => { b with entries := b.entries.put name v }
  | .body name type =>
    { b with entries := b.entries.put name (.obj ((b.entries.get name).fields.put type v)) }
  | .detached _ => { b with last := some (.detached v) }

/-- The body that was returned last. -/
def lastBody (b : Builder) : Except Fault Value :=
  match b.last with
  | some c => .ok (b.valueAt c)
  | none => .error .noBody

/-- Sets a member of the body that was returned last. -/
def setMember (member : String) (v : Value) (b : Builder) : Except Fault Builder :=
  match b.last with
  | none => .error .noBody
  | some c =>
    match b.valueAt c with
    | .obj ms => .ok (b.replaceAt (.obj (Members.put ms member v)) c)
    | _ => .error .notObject

/-- Looks an entry up, which becomes the body returned last. -/
def lookUp (name : String) (b : Builder) : Except Fault Builder :=
  if b.entries.names.contains name then .ok { b with last := some (.entry name) }
  else .error .noEntry

end Builder

end PortableSearch.Engine
