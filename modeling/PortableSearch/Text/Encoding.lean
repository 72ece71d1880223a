/-! Bytes as text. UTF-8 may be marked by the three bytes of its byte-order mark; UTF-16 and
UTF-32 are told by their marks or, without one, by where the zero bytes of the first characters
stand. -/
namespace PortableSearch.Text.Encoding

/-- Which byte of a code unit comes first. -/
inductive Order where
  | little
  | big
deriving DecidableEq, Repr

/-- How characters are laid out in bytes. -/
inductive Scheme where
  | utf8
  | utf16 (order : Order)
  | utf32 (order : Order)
deriving DecidableEq, Repr

/-- The byte-order marks. That of UTF-16 with the low byte first begins one of UTF-32, which goes
before it. -/
def marks : List (List UInt8 × Scheme) :=
  [([0x00, 0x00, 0xFE, 0xFF], .utf32 .big), ([0xFF, 0xFE, 0x00, 0x00], .utf32 .little),
    ([0xFE, 0xFF], .utf16 .big), ([0xFF, 0xFE], .utf16 .little), ([0xEF, 0xBB, 0xBF], .utf8)]

/-- The encoding of a text without a mark. -/
def unmarked (bytes : List UInt8) : Scheme :=
  match bytes with
  | a :: b :: c :: d :: _ =>
    if a = 0 then if b = 0 then .utf32 .big else .utf16 .big
    else if b = 0 then if c = 0 && d = 0 then .utf32 .little else .utf16 .little
    else .utf8
  | [a, b] => if a = 0 then .utf16 .big else if b = 0 then .utf16 .little else .utf8
  | _ => .utf8

/-- The encoding of a text in JSON, and how many bytes its mark takes. -/
def detect (bytes : List UInt8) : Scheme × Nat :=
  match marks.find? fun mark => mark.1.isPrefixOf bytes with
  | some (mark, scheme) => (scheme, mark.length)
  | none => (unmarked bytes, 0)

/-- The bytes as code units of two bytes; none if one byte is left over. -/
def units16? (order : Order) : List UInt8 → Option (List Nat)
  | [] => some []
  | [_] => none
  | a :: b :: rest =>
    let unit := match order with
      | .big => a.toNat * 0x100 + b.toNat
      | .little => b.toNat * 0x100 + a.toNat
    (units16? order rest).map (unit :: ·)

/-- The bytes as code points of four bytes each; none if bytes are left over. -/
def units32? (order : Order) : List UInt8 → Option (List Nat)
  | [] => some []
  | a :: b :: c :: d :: rest =>
    let join (w x y z : UInt8) : Nat :=
      ((w.toNat * 0x100 + x.toNat) * 0x100 + y.toNat) * 0x100 + z.toNat
    let unit := match order with
      | .big => join a b c d
      | .little => join d c b a
    (units32? order rest).map (unit :: ·)
  | _ => none

/-- Characters of UTF-16 code units; half a surrogate pair becomes U+FFFD. -/
def joinPairs : List Nat → List Char
  | [] => []
  | [unit] => [if 0xD800 ≤ unit && unit < 0xE000 then Char.ofNat 0xFFFD else Char.ofNat unit]
  | high :: low :: rest =>
    if 0xD800 ≤ high && high < 0xDC00 && 0xDC00 ≤ low && low < 0xE000 then
      Char.ofNat (0x10000 + (high - 0xD800) * 0x400 + (low - 0xDC00)) :: joinPairs rest
    else if 0xD800 ≤ high && high < 0xE000 then Char.ofNat 0xFFFD :: joinPairs (low :: rest)
    else Char.ofNat high :: joinPairs (low :: rest)

/-- UTF-8 in which the bytes of half a surrogate pair are those of U+FFFD. -/
def replaceHalfPairs : List UInt8 → List UInt8
  | a :: b :: c :: rest =>
    if a = 0xED && 0xA0 ≤ b && b < 0xC0 && 0x80 ≤ c && c < 0xC0 then
      0xEF :: 0xBF :: 0xBD :: replaceHalfPairs rest
    else a :: replaceHalfPairs (b :: c :: rest)
  | bytes => bytes

/-- The characters of the bytes of a JSON text, if the bytes are a text in their encoding. -/
def decode? (bytes : List UInt8) : Option (List Char) :=
  let (scheme, mark) := detect bytes
  let content := bytes.drop mark
  match scheme with
  | .utf8 => (String.fromUTF8? ⟨(replaceHalfPairs content).toArray⟩).map (·.toList)
  | .utf16 order => (units16? order content).map joinPairs
  | .utf32 order => do
    let points ← units32? order content
    guard (points.all fun n => n < 0x110000)
    return points.map fun n => if 0xD800 ≤ n && n < 0xE000 then Char.ofNat 0xFFFD else Char.ofNat n

end PortableSearch.Text.Encoding
