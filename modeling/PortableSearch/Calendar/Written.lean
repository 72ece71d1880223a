import PortableSearch.Calendar.Written.Draft

/-! Dates as people write them. The text is cut into words, numbers and marks; numbers and words
become parts of the date and of the time of day; and which number is the year, the month and the
day follows at the end from their sizes and positions. A part that is not written is taken from
1970-01-01T00:00. -/
namespace PortableSearch.Calendar.Written

namespace Draft

/-- The offset that the text gives, if it gives one. Names of UTC stand for offset zero whatever
number follows them, and other names of zones for nothing. -/
def offset (d : Draft) : Option Int :=
  match d.zoneName with
  | some name => if isUtcWord name then some 0 else d.zoneOffset
  | none => d.zoneOffset

/-- Something of the date or time has been read. -/
def isDate (d : Draft) (year month day : Option Nat) : Bool :=
  year.isSome || month.isSome || day.isSome || d.weekday.isSome || d.hour.isSome ||
    d.minute.isSome || d.second.isSome || d.micro.isSome || d.offset.isSome

/-- The moment, if all its parts are in range. A weekday counts only where no day is written: it
means the first such day from the date on. -/
def finish (d : Draft) : Option Moment := do
  let (year, month, day) ← d.parts.assign
  guard (d.isDate year month day)
  let year := (year.map fun y => fullYear y d.parts.century).getD 1970
  let date : Date := ⟨year, month.getD 1, day.getD 1⟩
  let clock : Clock := ⟨d.hour.getD 0, d.minute.getD 0, d.second.getD 0, d.micro.getD 0⟩
  let wall ← wallOf? date clock
  let wait : Int := match day, d.weekday with
    | none, some target => ((target : Int) - Calendar.weekday (dayOfWall wall)) % 7
    | _, _ => 0
  let wall ← (checkWall (wall + wait * microsPerDay)).toOption
  guard (d.offset.all isSpan)
  return ⟨wall, d.offset⟩

end Draft

/-- Reads a written date. -/
def read (cs : List Char) : Except Fault Moment := do
  let draft ← Draft.readTokens [] (tokens cs) {}
  draft.finish

end PortableSearch.Calendar.Written
