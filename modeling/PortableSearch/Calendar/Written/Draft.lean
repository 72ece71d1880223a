import PortableSearch.Calendar.Written.Parts

/-! Reading the tokens of a date from left to right. A number becomes a part of the date or of the
time of day by its length and by the tokens around it; a word has the meaning of the vocabulary;
a token that has none is refused. -/
namespace PortableSearch.Calendar.Written

/-- What has been read so far. -/
structure Draft where
  parts : Parts := {}
  weekday : Option Nat := none
  hour : Option Nat := none
  minute : Option Nat := none
  second : Option Nat := none
  micro : Option Nat := none
  zoneName : Option Token := none
  zoneOffset : Option Int := none

namespace Draft

/-- The hour in the named half of the day. -/
def inHalf (afternoon : Bool) (hour : Nat) : Nat :=
  if hour < 12 && afternoon then hour + 12
  else if hour = 12 && !afternoon then 0
  else hour

/-- Minutes whose fraction gives the seconds. -/
def withMinutes (d : Draft) (n : Numeral) : Except Fault Draft :=
  if n.splits then
    .ok { d with
      minute := some n.whole
      second := if n.fraction = 0 then none else some n.sixtieths }
  else .error .tooLong

/-- Hours whose fraction gives the minutes. -/
def withHours (d : Draft) (n : Numeral) : Except Fault Draft :=
  if n.splits then
    .ok { d with
      hour := some n.whole
      minute := if n.fraction = 0 then d.minute else some n.sixtieths }
  else .error .tooLong

def withSeconds (d : Draft) (t : Token) : Option Draft :=
  (readSeconds? t).map fun s => { d with second := some s.1, micro := some s.2 }

/-- A number with a unit: hours, minutes or seconds. -/
def withUnit (d : Draft) (t : Token) (n : Numeral) : Nat → Except Fault Draft
  | 0 => d.withHours n
  | 1 => d.withMinutes n
  | 2 => do d.withSeconds t
  | _ => .ok d

/-- The unit of a number, from the word after it or, failing that, the unit after the one named
before it; with the number of tokens that the unit takes. -/
def unitAround (before after : List Token) : Option (Nat × Nat) :=
  let next := after.head?.bind clockUnitNamed?
  let nextButOne := if after.head? = some [' '] then after[1]?.bind clockUnitNamed? else none
  let last := before.head?.bind clockUnitNamed?
  let lastButOne :=
    if after.isEmpty && before.head? = some [' '] then before[1]?.bind clockUnitNamed? else none
  (next.map (·, 1)).or <| (nextButOne.map (·, 2)).or <|
    (last.map (· + 1, 0)).or (lastButOne.map (· + 1, 0))

def is (t : Token) (c : Char) : Bool := t = [c]

/-- Reads a number; gives the draft and the number of tokens taken after it. -/
def readNumber (before : List Token) (t : Token) (after : List Token) (d : Draft) :
    Except Fault (Draft × Nat) := do
  let n ← Numeral.read? t
  let next := after.head?
  let separator := next.bind fun s => if is s '-' || is s '/' || is s '.' then some s else none
  if d.parts.values.length = 3 && (t.length = 2 || t.length = 4) && d.hour.isNone &&
      (next.all fun s => !is s ':' && (clockUnitNamed? s).isNone) then
    let hour ← Text.readNat? (t.take 2)
    let d := { d with hour := some hour }
    if t.length = 4 then
      let minute ← Text.readNat? (t.drop 2)
      return ({ d with minute := some minute }, 0)
    else return (d, 0)
  else if t.length = 6 || (6 < t.length && t.idxOf '.' = 6) then
    if d.parts.values.isEmpty && !t.contains '.' then
      let parts ← d.parts.addDigits (t.take 2) none
      let parts ← parts.addDigits ((t.drop 2).take 2) none
      let parts ← parts.addDigits (t.drop 4) none
      return ({ d with parts := parts }, 0)
    else
      let hour ← Text.readNat? (t.take 2)
      let minute ← Text.readNat? ((t.drop 2).take 2)
      let d ← { d with hour := some hour, minute := some minute }.withSeconds (t.drop 4)
      return (d, 0)
  else if t.length = 8 || t.length = 12 || t.length = 14 then
    let parts ← d.parts.addDigits (t.take 4) (some .year)
    let parts ← parts.addDigits ((t.drop 4).take 2) none
    let parts ← parts.addDigits ((t.drop 6).take 2) none
    let d := { d with parts := parts }
    if t.length = 8 then return (d, 0)
    let hour ← Text.readNat? ((t.drop 8).take 2)
    let minute ← Text.readNat? ((t.drop 10).take 2)
    let d := { d with hour := some hour, minute := some minute }
    if t.length = 12 then return (d, 0)
    let second ← Text.readNat? (t.drop 12)
    return ({ d with second := some second }, 0)
  else if let some (unit, taken) := unitAround before after then
    let d ← d.withUnit t n unit
    return (d, taken)
  else if 2 ≤ after.length && next.any (is · ':') then
    let minutes ← after[1]?.bind Numeral.read?
    let d ← { d with hour := some n.whole }.withMinutes minutes
    if 4 ≤ after.length && after[2]?.any (is · ':') then
      let d ← after[3]?.bind d.withSeconds
      return (d, 4)
    else return (d, 2)
  else if let some separator := separator then
    let parts ← d.parts.addDigits t none
    match after[1]? with
    | none => return ({ d with parts := parts }, 1)
    | some second =>
      if isFiller second then return ({ d with parts := parts }, 1)
      let parts ← (if second.all Text.isDigit then parts.addDigits second none
        else (monthNamed? second).bind parts.addMonth : Option Parts)
      if after[2]? = some separator then
        let parts ← after[3]?.bind parts.addNamed
        return ({ d with parts := parts }, 4)
      else return ({ d with parts := parts }, 2)
  else if next.all isFiller then
    match after[1]?.bind afternoonNamed? with
    | some afternoon => return ({ d with hour := some (inHalf afternoon n.whole) }, 2)
    | none =>
      let parts ← d.parts.addNumeral n
      return ({ d with parts := parts }, 1)
  else if let some afternoon := (next.bind afternoonNamed?).filter fun _ => n.whole < 24 then
    return ({ d with hour := some (inHalf afternoon n.whole) }, 1)
  else if d.parts.admitsDay n then
    let parts ← d.parts.addNumeral n
    return ({ d with parts := parts }, 0)
  else throw .unreadable

/-- A year of two digits means the year nearest to the present of those that end in them. -/
def presentYear : Nat := 2026

/-- The year that a written year means; one written in full means itself. -/
def fullYear (year : Nat) (century : Bool) : Nat :=
  if year < 100 && !century then
    let year := year + presentYear / 100 * 100
    if presentYear + 50 ≤ year then year - 100
    else if year + 50 < presentYear then year + 100
    else year
  else year

/-- Reads the name of a month; a date may go on after it. -/
def readMonth (month : Nat) (after : List Token) (d : Draft) : Option (Draft × Nat) := do
  let parts ← d.parts.addMonth month
  match after with
  | [] => return ({ d with parts := parts }, 0)
  | mark :: rest =>
    if is mark '-' || is mark '/' then
      let parts ← rest.head?.bind (parts.addDigits · none)
      if rest[1]? = some mark then
        let parts ← rest[2]?.bind (parts.addDigits · none)
        return ({ d with parts := parts }, 4)
      else return ({ d with parts := parts }, 2)
    else
      match after with
      | [' '] :: word :: [' '] :: year :: _ =>
        if lower word = "of" then
          if year.all Text.isDigit then
            let value ← Text.readNat? year
            let full := fullYear value false
            let parts ← parts.add full (2 < (Nat.toDigits 10 full).length) (some .year)
            return ({ d with parts := parts }, 4)
          else return ({ d with parts := parts }, 4)
        else return ({ d with parts := parts }, 0)
      | _ => return ({ d with parts := parts }, 0)

/-- Whether a token can name a zone: capital letters after a time of day. -/
def admitsZoneName (d : Draft) (offset : Option Int) (t : Token) : Bool :=
  d.hour.isSome && d.zoneName.isNone && offset.isNone && t.length ≤ 5 &&
    (t.all Char.isUpper || utcWords.contains t)

/-- Reads an offset after its sign, with a zone name in parentheses if one follows; gives the
number of tokens taken after the sign. -/
def readOffset (negative : Bool) (after : List Token) (d : Draft) : Option (Draft × Nat) := do
  let first ← after.head?
  let (hours, minutes, taken) ←
    if first.length = 4 then do
      let h ← Text.readNat? (first.take 2)
      let m ← Text.readNat? (first.drop 2)
      some (h, m, 1)
    else if after[1]?.any (is · ':') then do
      let h ← Text.readNat? first
      let m ← after[2]?.bind Text.readNat?
      some (h, m, 3)
    else if first.length ≤ 2 then do
      let h ← Text.readNat? first
      some (h, 0, 1)
    else none
  let seconds : Int := (3600 * hours + 60 * minutes : Nat)
  let d := { d with zoneOffset := some (if negative then -seconds else seconds) }
  match after.drop taken with
  | gap :: opening :: name :: closing :: _ =>
    if isFiller gap && is opening '(' && is closing ')' && 3 ≤ name.length &&
        d.admitsZoneName none name then
      return ({ d with zoneName := some name }, taken + 4)
    else return (d, taken)
  | _ => return (d, taken)

/-- The sign turned round: behind the name of a zone it tells how UTC differs from the zone. -/
def turnSign (after : List Token) : Option (List Token) :=
  match after with
  | ['+'] :: rest => some (['-'] :: rest)
  | ['-'] :: rest => some (['+'] :: rest)
  | _ => none

/-- Reads one token; gives the draft, the tokens after it and how many of them are taken. -/
def readToken (before : List Token) (t : Token) (after : List Token) (d : Draft) :
    Except Fault (Draft × List Token × Nat) := do
  if (Numeral.read? t).isSome then
    let (d, taken) ← d.readNumber before t after
    return (d, after, taken)
  else if isNumberWord t then throw .unreadable
  else if let some day := weekdayNamed? t then return ({ d with weekday := some day }, after, 0)
  else if let some month := monthNamed? t then
    let (d, taken) ← d.readMonth month after
    return (d, after, taken)
  else if let some afternoon := afternoonNamed? t then
    let hour ← d.hour.filter (· ≤ 12)
    return ({ d with hour := some (inHalf afternoon hour) }, after, 0)
  else if d.admitsZoneName d.zoneOffset t then
    match turnSign after with
    | some turned =>
      return ({ d with zoneName := if isUtcWord t then none else some t }, turned, 0)
    | none => return ({ d with zoneName := some t }, after, 0)
  else if d.hour.isSome && (is t '+' || is t '-') then
    let (d, taken) ← d.readOffset (is t '-') after
    return (d, after, taken)
  else if isFiller t then return (d, after, 0)
  else throw .unreadable

/-- Reads the tokens to their end; the ones before are kept in reverse. -/
def readTokens (before : List Token) (rest : List Token) (d : Draft) : Except Fault Draft :=
  match rest with
  | [] => .ok d
  | t :: after =>
    match d.readToken before t after with
    | .error fault => .error fault
    | .ok (d, turned, taken) =>
      let passed := (turned.take taken).reverse ++ t :: before
      -- A turned sign leaves the number of tokens as it was, so that the first cut drops none.
      readTokens passed ((turned.take after.length).drop taken) d
termination_by rest.length
decreasing_by
  simp only [List.length_drop, List.length_take, List.length_cons]
  omega

end Draft

end PortableSearch.Calendar.Written
