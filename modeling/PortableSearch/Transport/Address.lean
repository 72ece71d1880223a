/-! Addresses of an engine: a scheme, a host and a port, perhaps with a user and password before the
host and a path and query after the port. Only the scheme `https` has a port of its own. -/
namespace PortableSearch

structure Address where
  scheme : String
  /-- What stands before the host. -/
  user : Option (List Char)
  host : List Char
  port : Nat
deriving DecidableEq, Repr

namespace Address

/-- Reads a scheme and the colon after it. -/
def readScheme? (cs : List Char) : Option (String × List Char) :=
  let scheme := cs.takeWhile fun c => c.isAlphanum || c = '+' || c = '-'
  match cs.dropWhile fun c => c.isAlphanum || c = '+' || c = '-' with
  | ':' :: rest =>
    if scheme.head?.any Char.isAlpha then
      some (String.ofList (scheme.map Char.toLower), rest)
    else none
  | _ => none

/-- The marks with which a path, a query or a fragment begins. -/
def pathMarks : List Char := ['\\', '/', '?', '#']

/-- The text after two slashes, up to a path, a query or a fragment. -/
def authority? : List Char → Option (List Char)
  | '/' :: '/' :: rest => some (rest.takeWhile fun c => !pathMarks.contains c)
  | _ => none

/-- Splits at the last at sign: what stands before it, unless that is empty, and what stands after. -/
def splitUser (cs : List Char) : Option (List Char) × List Char :=
  let reversed := cs.reverse
  let after := (reversed.takeWhile (· != '@')).reverse
  match reversed.dropWhile (· != '@') with
  | [] => (none, after)
  | _ :: before => (if before.isEmpty then none else some before.reverse, after)

/-! Hosts -/

def isHexDigit (c : Char) : Bool :=
  c.isDigit || ('a' ≤ c && c ≤ 'f') || ('A' ≤ c && c ≤ 'F')

/-- The marks that stand for themselves nowhere in the name of a host. -/
def hostMarks : List Char := ['[', ']', '%', ':', '/', '?', '#']

/-- The name of a host: any characters but the marks of an address, and escapes of two hexadecimal
digits. -/
def isHostName : List Char → Bool
  | [] => true
  | '%' :: a :: b :: rest => isHexDigit a && isHexDigit b && isHostName rest
  | c :: rest => !hostMarks.contains c && isHostName rest

/-- Four numbers of up to three digits, with points between them. -/
def isFourNumbers (cs : List Char) : Bool :=
  let parts := cs.splitOn '.'
  parts.length = 4 && parts.all fun p => 1 ≤ p.length && p.length ≤ 3 && p.all Char.isDigit

/-- How many groups of 16 bits a text of groups between colons has, if it has any form; four
numbers count for two groups and stand only at the end. -/
def countGroups? (cs : List Char) (withNumbers : Bool) : Option Nat :=
  if cs.isEmpty then some 0
  else
    let groups := cs.splitOn ':'
    let isGroup (g : List Char) : Bool := 1 ≤ g.length && g.length ≤ 4 && g.all isHexDigit
    match groups.getLast? with
    | some last =>
      if groups.all isGroup then some groups.length
      else if withNumbers && isFourNumbers last && groups.dropLast.all isGroup then
        some (groups.length + 1)
      else none
    | none => none

/-- Splits at the first double colon. -/
def splitGap : List Char → List Char × Option (List Char)
  | [] => ([], none)
  | ':' :: ':' :: rest => ([], some rest)
  | c :: rest => let (before, after) := splitGap rest; (c :: before, after)

/-- Eight groups, or fewer with a double colon for the missing ones. -/
def isNumericHost (cs : List Char) : Bool :=
  match splitGap cs with
  | (all, none) => countGroups? all true = some 8
  | (before, some after) =>
    match countGroups? before false, countGroups? after true with
    | some n, some m => n + m ≤ 7
    | _, _ => false

/-- The name of a zone after a percent sign. -/
def isZoneName : List Char → Bool
  | [] => true
  | '%' :: a :: b :: rest => isHexDigit a && isHexDigit b && isZoneName rest
  | c :: rest => (c.isAlphanum || ['.', '_', '!', '-', '~'].contains c) && isZoneName rest

/-- What may stand between brackets: a numeric host, perhaps with a zone. -/
def isBracketed (cs : List Char) : Bool :=
  let zone := cs.dropWhile (· != '%')
  isNumericHost (cs.takeWhile (· != '%')) && (zone.isEmpty || (1 < zone.length && isZoneName
    (zone.drop 1)))

/-! Ports -/

/-- Without a line feed at the end. -/
def dropFinalNewline (cs : List Char) : List Char :=
  if cs.getLast? = some '\n' then cs.dropLast else cs

/-- Reads a port: none where no digits are written. Besides leading zeros there are at most five. -/
def readPort? (cs : List Char) : Option (Option Nat) :=
  let digits := cs.dropWhile (· = '0')
  if cs.isEmpty then some none
  else if digits.length ≤ 5 && digits.all Char.isDigit then
    let n := digits.foldl (fun n c => 10 * n + (c.toNat - 0x30)) 0
    if n ≤ 65535 then some (some n) else none
  else none

/-- Reads the host and the port, if one is written. -/
def readHost? (cs : List Char) : Option (List Char × Option Nat) :=
  let port? (rest : List Char) : Option (Option Nat) :=
    match rest with
    | ':' :: port => readPort? (dropFinalNewline port)
    | rest => if (dropFinalNewline rest).isEmpty then some none else none
  match cs with
  | '[' :: inner =>
    match inner.dropWhile (· != ']') with
    | _ :: rest =>
      let host := inner.takeWhile (· != ']')
      if isBracketed host then (port? rest).map (host, ·) else none
    | [] => none
  | cs =>
    let host := cs.takeWhile (· != ':')
    if isHostName host then (port? (cs.dropWhile (· != ':'))).map (host, ·) else none

/-- The port of a scheme that has one. -/
def usualPort? (scheme : String) : Option Nat := if scheme = "https" then some 443 else none

/-- A user with a password: one colon stands between them. -/
def isUser (cs : List Char) : Bool := cs.count ':' = 1

/-- The schemes whose hosts are names of the internet, which have characters of ASCII only. -/
def namesAscii (scheme : String) : Bool := scheme = "http" || scheme = "https"

/-- Reads an address. -/
def ofText? (s : String) : Option Address := do
  let (scheme, rest) ← readScheme? s.toList
  let (user, place) := splitUser (← authority? rest)
  let (host, port) ← readHost? place
  let port ← port.or (usualPort? scheme)
  guard (!host.isEmpty && user.all isUser)
  guard (!namesAscii scheme || host.all fun c => c.toNat < 0x80)
  return ⟨scheme, user, host, port⟩

end Address

end PortableSearch
