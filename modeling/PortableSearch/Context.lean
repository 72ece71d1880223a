import PortableSearch.Calendar.Civil

/-! What the parts of a request share while it is compiled. -/
namespace PortableSearch

structure Context where
  /-- The time zone of parts that name none. -/
  timeZone : Option String
  /-- The moment that `now` means; the current one if it is not set. -/
  now : Option Calendar.Moment
deriving DecidableEq, Repr

namespace Context

def empty : Context := ⟨none, none⟩

/-- A name that says something: an empty one counts as none. -/
def named? : Option String → Option String
  | some s => if s.isEmpty then none else some s
  | none => none

/-- The time zone of a part: its own if it names one, and the shared one otherwise. -/
def zoneFor (own shared : Option String) : Option String :=
  match named? own with
  | some zone => some zone
  | none => shared

/-- The moment that `now` means, given the current one. Without an offset it is in UTC. -/
def anchor (c : Context) (current : Calendar.Moment) : Calendar.Moment :=
  match c.now with
  | none => current
  | some ⟨wall, none⟩ => ⟨wall, some 0⟩
  | some m => m

end Context

end PortableSearch
