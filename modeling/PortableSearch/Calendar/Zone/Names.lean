import PortableSearch.Calendar.Zone.Tables
import PortableSearch.Calendar.Zone.Posix
import PortableSearch.Text.Blank

/-! Names of time zones. A name is empty or one of the short names of UTC, a signed offset such
as `+05:30`, `-0800` or `+5`, a place of the time zone database, by its name or by the path of its
file, or an abbreviation with an offset. -/
namespace PortableSearch.Calendar.Zone

/-- The names of UTC that are recognised in any letter case. -/
def utcNames : List String := ["UTC", "Z", "GMT"]

def isUtcName (name : String) : Bool :=
  utcNames.contains (String.ofList (name.toList.map Char.toUpper))

/-- Seconds of so many hours and minutes. -/
def hoursMinutes (hours minutes : Nat) : Int := (3600 * hours + 60 * minutes : Nat)

def signed (negative : Bool) (seconds : Int) : Int := if negative then -seconds else seconds

/-- Splits the digits of an offset into hours and minutes: at the colon if there is one, and
otherwise before the last two digits of three or four. -/
def splitHours (cs : List Char) : List Char × Option (List Char) :=
  match cs.span (· != ':') with
  | (hours, _ :: minutes) => (hours, some minutes)
  | (digits, []) =>
    if digits.length ≤ 2 then (digits, none)
    else (digits.take (digits.length - 2), some (digits.drop (digits.length - 2)))

/-- Reads a sign, one or two digits for the hours, and optionally two digits for the minutes. -/
def readOffset? (cs : List Char) : Option Int :=
  match cs with
  | [] => none
  | sign :: rest => do
    guard (sign = '+' || sign = '-')
    let (hours, minutes) := splitHours rest
    guard (hours.length ≤ 2)
    let h ← Text.readNat? hours
    let m ← match minutes with
      | none => some 0
      | some ds => if ds.length = 2 then Text.readNat? ds else none
    return signed (sign = '-') (hoursMinutes h m)

/-- The places that keep UTC all year. -/
def utcPlaces : List String :=
  ["UTC", "GMT", "UCT", "Universal", "Zulu", "Greenwich", "GMT0", "GMT+0", "GMT-0", "Etc/UTC",
    "Etc/UCT", "Etc/Universal", "Etc/Zulu", "Etc/Greenwich", "Etc/GMT", "Etc/GMT0", "Etc/GMT+0",
    "Etc/GMT-0"]

/-- The places `Etc/GMT+n`, so many hours west of UTC, and `Etc/GMT-n` to the east. -/
def nauticalPlaces : List (String × Int) :=
  (List.range' 1 12).map (fun n : Nat => ("Etc/GMT+" ++ toString n, -3600 * (n : Int))) ++
    (List.range' 1 14).map (fun n : Nat => ("Etc/GMT-" ++ toString n, 3600 * (n : Int)))

/-- Further places with one offset all year. -/
def steadyPlaces : List (String × Int) := [("EST", -18000), ("MST", -25200), ("HST", -36000)]

/-- The zone of a place of the database. -/
def ofPlace? (name : String) : Option Zone :=
  if utcPlaces.contains name then some (.fixed 0)
  else (((steadyPlaces ++ nauticalPlaces).lookup name).map Zone.fixed).or
    ((ZoneTable.byName.lookup name).map Zone.table)

/-! Paths -/

/-- The directory of the database, from the root. -/
def databasePath : List String := ["usr", "share", "zoneinfo"]

/-- The directories in the database that hold places. -/
def areas : List String :=
  ["Africa", "America", "Antarctica", "Arctic", "Asia", "Atlantic", "Australia", "Brazil", "Canada",
    "Chile", "Etc", "Europe", "Indian", "Mexico", "Pacific", "US"]

/-- Whether a path is that of a directory on the way to a place. -/
def isDirectory (path : List String) : Bool :=
  path.isPrefixOf databasePath || areas.any fun area => path = databasePath ++ [area]

/-- Where a path leads from a directory; each step but the last has to lead to a directory. -/
def walk (path : List String) : List String → Option (List String)
  | [] => some path
  | step :: steps =>
    if !isDirectory path then none
    else if step = "" || step = "." then walk path steps
    else if step = ".." then walk path.dropLast steps
    else walk (path ++ [step]) steps

/-- The zone in the file of a path, which starts from the database unless it is absolute. -/
def ofPath? (path : List Char) : Option Zone := do
  let start := if path.head? = some '/' then [] else databasePath
  let found ← walk start ((path.splitOn '/').map String.ofList)
  guard (databasePath.isPrefixOf found)
  ofPlace? ("/".intercalate (found.drop databasePath.length))

/-! Names -/

/-- The zone of a name that is no absolute path: a place, perhaps with spaces for underscores, or an
abbreviation with an offset, which has a digit somewhere. -/
def ofRelativeName (cs : List Char) : Except NameFault Zone :=
  let spaced := cs.map fun c => if c = ' ' then '_' else c
  match (ofPath? cs).or (ofPath? spaced) with
  | some zone => .ok zone
  | none => if cs.any Char.isDigit then ofPosix cs else .error .unknown

/-- The zone of a name that is neither a name of UTC nor an offset. A leading colon is ignored, and
a colon alone means the local zone, which is that of UTC. -/
def ofName (name : String) : Except NameFault Zone :=
  let cs := match name.toList with
    | ':' :: cs => cs
    | cs => cs
  match cs with
  | [] => .ok (.fixed 0)
  | '/' :: _ => (ofPath? cs).elim (.error .unknown) .ok
  | cs => ofRelativeName cs

/-- The zone that an identifier names; no identifier, or an empty one, means UTC. -/
def named (name : Option String) : Except NameFault Zone :=
  match name with
  | none => .ok .utc
  | some name =>
    if name.isEmpty || isUtcName name then .ok .utc
    else match readOffset? (Text.trimEnds Text.isBlank name.toList) with
      | some offset => .ok (.fixed offset)
      | none => ofName name

/-- The zone for one expression: the one that it names, or the shared one. -/
def namedOr (shared : Zone) (own : Option String) : Except NameFault Zone :=
  match own with
  | none => .ok shared
  | some name => if name.isEmpty then .ok shared else named own

/-- The message for a name; only an unknown one has a message. -/
def NameFault.message? (name : String) : NameFault → Option String
  | unknown => some ("Unknown time zone: " ++ name)
  | offsetTooLong | offsetMissing => none

end PortableSearch.Calendar.Zone
