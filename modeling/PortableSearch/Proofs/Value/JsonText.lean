import PortableSearch.Proofs.Value.Plain
import PortableSearch.Value.Json

/-! The JSON texts of a value. There are many: blanks may stand around every part, and a character
of a string may be written by itself, by a letter after a backslash, or by its code units. The text
without blanks that values are written as is one of them. -/
namespace PortableSearch.Value.JsonText

def blanks : List Char := [' ', '\n', '\r', '\t']

/-- A text of blanks only. -/
def IsBlank (t : List Char) : Prop := ∀ c ∈ t, c ∈ blanks

theorem forall_blanks {p : Char → Prop} (space : p ' ') (newline : p '\n') (feed : p '\r')
    (tab : p '\t') : ∀ c ∈ blanks, p c := by
  simp [blanks, space, newline, feed, tab]

/-- The digits of a number below sixteen. -/
inductive HexDigit (n : Nat) : Char → Prop where
  | lower : n < 16 → HexDigit n n.digitChar
  | upper : n < 16 → HexDigit n n.digitChar.toUpper

/-- Four hexadecimal digits. -/
inductive HexUnit : Nat → List Char → Prop where
  | digits {k l m n a b c d} : HexDigit k a → HexDigit l b → HexDigit m c → HexDigit n d →
      HexUnit (((k * 16 + l) * 16 + m) * 16 + n) [a, b, c, d]

/-- The letters after a backslash, with what they stand for. -/
def shortEscapes : List (Char × Char) :=
  [('"', '"'), ('\\', '\\'), ('/', '/'), ('b', Char.ofNat 0x08), ('f', Char.ofNat 0x0C),
    ('n', '\n'), ('r', '\r'), ('t', '\t')]

/-- The high half of the surrogate pair of a character. -/
def highHalf (c : Char) : Nat := 0xD800 + (c.toNat - 0x10000) / 0x400

def lowHalf (c : Char) : Nat := 0xDC00 + (c.toNat - 0x10000) % 0x400

/-- The ways to write a character in a string. -/
inductive WritesChar : Char → List Char → Prop where
  | itself {c} : 0x20 ≤ c.toNat → c ≠ '"' → c ≠ '\\' → WritesChar c [c]
  | short {letter c} : (letter, c) ∈ shortEscapes → WritesChar c ['\\', letter]
  | unit {c t} : HexUnit c.toNat t → WritesChar c ('\\' :: 'u' :: t)
  | pair {c high low} : 0x10000 ≤ c.toNat → HexUnit (highHalf c) high → HexUnit (lowHalf c) low →
      WritesChar c ('\\' :: 'u' :: high ++ '\\' :: 'u' :: low)

inductive WritesChars : List Char → List Char → Prop where
  | nil : WritesChars [] []
  | cons {c cs t rest} : WritesChar c t → WritesChars cs rest → WritesChars (c :: cs) (t ++ rest)

/-- A string stands between quotation marks. -/
inductive WritesString : String → List Char → Prop where
  | quoted {s t} : WritesChars s.toList t → WritesString s ('"' :: t ++ ['"'])

/-- An integer has no zeros in front; zero may have a sign. -/
inductive WritesInt : Int → List Char → Prop where
  | natural (n : Nat) : WritesInt n (Nat.toDigits 10 n)
  | negated (n : Nat) : WritesInt (-n) ('-' :: Nat.toDigits 10 n)

/-- What a part of a text writes: a value, the items of a list with the bracket that closes it, or
the members of an object with the brace that closes it. -/
inductive Part where
  | value (v : Value)
  | items (vs : List Value)
  | members (ms : List (String × Value))

/-- The texts of a part, which neither begin nor end with a blank. -/
inductive Writes : Part → List Char → Prop where
  | null : Writes (.value .null) ['n', 'u', 'l', 'l']
  | yes : Writes (.value (.bool true)) ['t', 'r', 'u', 'e']
  | no : Writes (.value (.bool false)) ['f', 'a', 'l', 's', 'e']
  | int {n t} : WritesInt n t → Writes (.value (.int n)) t
  | str {s t} : WritesString s t → Writes (.value (.str s)) t
  | emptyList {b} : IsBlank b → Writes (.value (.list [])) ('[' :: b ++ [']'])
  | list {vs b t} : IsBlank b → Writes (.items vs) t → Writes (.value (.list vs)) ('[' :: b ++ t)
  | emptyObject {b} : IsBlank b → Writes (.value (.obj [])) ('{' :: b ++ ['}'])
  | object {ms b t} : IsBlank b → Writes (.members ms) t →
      Writes (.value (.obj ms)) ('{' :: b ++ t)
  | lastItem {v t b} : Writes (.value v) t → IsBlank b → Writes (.items [v]) (t ++ b ++ [']'])
  | item {v vs t b₁ b₂ rest} : Writes (.value v) t → IsBlank b₁ → IsBlank b₂ →
      Writes (.items vs) rest → Writes (.items (v :: vs)) (t ++ b₁ ++ ',' :: b₂ ++ rest)
  | lastMember {name v n b₁ b₂ t b₃} : WritesString name n → IsBlank b₁ → IsBlank b₂ →
      Writes (.value v) t → IsBlank b₃ →
      Writes (.members [(name, v)]) (n ++ b₁ ++ ':' :: b₂ ++ t ++ b₃ ++ ['}'])
  | member {name v ms n b₁ b₂ t b₃ b₄ rest} : WritesString name n → IsBlank b₁ → IsBlank b₂ →
      Writes (.value v) t → IsBlank b₃ → IsBlank b₄ → Writes (.members ms) rest →
      Writes (.members ((name, v) :: ms)) (n ++ b₁ ++ ':' :: b₂ ++ t ++ b₃ ++ ',' :: b₄ ++ rest)

end JsonText

/-- A JSON text of a value. -/
inductive IsJsonText : Value → String → Prop where
  | text {v before t after} : JsonText.IsBlank before → JsonText.Writes (.value v) t →
      JsonText.IsBlank after → IsJsonText v (String.ofList (before ++ t ++ after))

namespace JsonText

/-! The text without blanks -/

theorem isBlank_nil : IsBlank [] := List.forall_mem_nil _

theorem hexDigit_quoted {n : Nat} (small : n < 16) : HexDigit n (Text.Quoted.hexDigit n) := by
  have same : ∀ m : Fin 16, Text.Quoted.hexDigit m = (m : Nat).digitChar := by decide
  rw [same ⟨n, small⟩]
  exact .lower small

theorem hexUnit_quoted {n : Nat} (small : n < 0x10000) : HexUnit n (Text.Quoted.hex 4 n) := by
  have value : n = ((n / 16 / 16 / 16 % 16 * 16 + n / 16 / 16 % 16) * 16 + n / 16 % 16) * 16 +
      n % 16 := by
    omega
  have digits := HexUnit.digits (hexDigit_quoted (Nat.mod_lt (n / 16 / 16 / 16) (by decide)))
    (hexDigit_quoted (Nat.mod_lt (n / 16 / 16) (by decide)))
    (hexDigit_quoted (Nat.mod_lt (n / 16) (by decide)))
    (hexDigit_quoted (Nat.mod_lt n (by decide)))
  rw [← value] at digits
  exact digits

theorem writesChar_jsonEscape (c : Char) : WritesChar c (jsonEscape c) := by
  have code : ∀ {n : Nat}, c.toNat = n → c = Char.ofNat n := fun same => by
    rw [← same, Char.ofNat_toNat]
  have short : ∀ {letter d : Char}, (letter, d) ∈ shortEscapes → c = d →
      WritesChar c ['\\', letter] := fun inside same => same ▸ .short inside
  unfold jsonEscape
  split_ifs with quote backslash newline back tab bell feed control
  · exact short (by decide) quote
  · exact short (by decide) backslash
  · exact short (by decide) newline
  · exact short (by decide) back
  · exact short (by decide) tab
  · exact short (by decide) (code bell)
  · exact short (by decide) (code feed)
  · exact .unit (hexUnit_quoted (by omega))
  · exact .itself (by omega) quote backslash

theorem writesChars_jsonEscape (cs : List Char) : WritesChars cs (cs.flatMap jsonEscape) := by
  induction cs with
  | nil => exact .nil
  | cons c cs ih => exact .cons (writesChar_jsonEscape c) ih

theorem writesString_jsonString (s : String) : WritesString s (jsonString s) :=
  .quoted (writesChars_jsonEscape s.toList)

theorem writesInt_toString (n : Int) : WritesInt n (toString n).toList := by
  cases n with
  | ofNat n =>
    have digits : (toString (Int.ofNat n)).toList = Nat.toDigits 10 n := by
      rw [show toString (Int.ofNat n) = n.repr from rfl, Nat.repr_eq_ofList_toDigits,
        String.toList_ofList]
    rw [digits]
    exact .natural n
  | negSucc n =>
    have digits : (toString (Int.negSucc n)).toList = '-' :: Nat.toDigits 10 (n + 1) := by
      rw [show toString (Int.negSucc n) = "-" ++ (n + 1).repr from rfl, String.toList_append,
        Nat.repr_eq_ofList_toDigits, String.toList_ofList]
      simp
    rw [digits]
    exact .negated (n + 1)

mutual

/-- The text that a plain value is written as is one of its texts. -/
theorem writes_jsonChars : ∀ {v : Value}, v.IsPlain → Writes (.value v) v.jsonChars
  | .null, _ => by
    rw [jsonChars]
    exact .null
  | .bool true, _ => by
    rw [jsonChars]
    exact .yes
  | .bool false, _ => by
    rw [jsonChars]
    exact .no
  | .int n, _ => by
    rw [jsonChars]
    exact .int (writesInt_toString n)
  | .str s, _ => by
    rw [jsonChars]
    exact .str (writesString_jsonString s)
  | .list [], _ => by
    rw [jsonChars, jsonItems]
    exact .emptyList isBlank_nil
  | .list (v :: vs), plain => by
    rw [IsPlain] at plain
    rw [jsonChars]
    show Writes _ ('[' :: [] ++ (jsonItems (v :: vs) ++ [']']))
    exact .list isBlank_nil (writes_jsonItems (List.cons_ne_nil v vs) plain)
  | .obj [], _ => by
    rw [jsonChars, jsonMembers]
    exact .emptyObject isBlank_nil
  | .obj (m :: ms), plain => by
    rw [IsPlain] at plain
    rw [jsonChars]
    show Writes _ ('{' :: [] ++ (jsonMembers (m :: ms) ++ ['}']))
    exact .object isBlank_nil (writes_jsonMembers (List.cons_ne_nil m ms) plain.2)

theorem writes_jsonItems : ∀ {vs : List Value}, vs ≠ [] → ItemsPlain vs →
    Writes (.items vs) (jsonItems vs ++ [']'])
  | [], present, _ => absurd rfl present
  | [v], _, plain => by
    obtain ⟨first, -⟩ := plain
    have text := Writes.lastItem (writes_jsonChars first) isBlank_nil
    simpa [jsonItems] using text
  | v :: w :: vs, _, plain => by
    obtain ⟨first, rest⟩ := plain
    have text := Writes.item (writes_jsonChars first) isBlank_nil isBlank_nil
      (writes_jsonItems (List.cons_ne_nil w vs) rest)
    simpa [jsonItems] using text

theorem writes_jsonMembers : ∀ {ms : List (String × Value)}, ms ≠ [] → MembersPlain ms →
    Writes (.members ms) (jsonMembers ms ++ ['}'])
  | [], present, _ => absurd rfl present
  | [(name, v)], _, plain => by
    obtain ⟨first, -⟩ := plain
    have text := Writes.lastMember (writesString_jsonString name) isBlank_nil isBlank_nil
      (writes_jsonChars first) isBlank_nil
    simpa [jsonMembers] using text
  | (name, v) :: m :: ms, _, plain => by
    obtain ⟨first, rest⟩ := plain
    have text := Writes.member (writesString_jsonString name) isBlank_nil isBlank_nil
      (writes_jsonChars first) isBlank_nil isBlank_nil
      (writes_jsonMembers (List.cons_ne_nil m ms) rest)
    simpa [jsonMembers] using text

end

/-! Every text -/

variable {t : List Char} {part : Part}

/-- How deep lists and objects are nested in a part. -/
def Part.depth : Part → Nat
  | .value v => v.depth
  | .items vs => depthOfItems vs
  | .members ms => depthOfMembers ms

/-- Every list and every object takes a bracket, so no part is nested deeper than its text is
long. -/
theorem depth_le_length (writes : Writes part t) : part.depth ≤ t.length := by
  induction writes with
  | null | yes | no | int | str => exact Nat.zero_le _
  | emptyList | emptyObject =>
    simp only [Part.depth, Value.depth, depthOfItems, depthOfMembers, List.length_append,
      List.length_cons]
    omega
  | list _ _ ih | object _ _ ih =>
    simp only [Part.depth, Value.depth, List.length_append, List.length_cons] at ih ⊢
    omega
  | lastItem _ _ ih | lastMember _ _ _ _ _ ih =>
    simp only [Part.depth, depthOfItems, depthOfMembers, List.length_append] at ih ⊢
    omega
  | item _ _ _ _ ih more | member _ _ _ _ _ _ _ ih more =>
    simp only [Part.depth, depthOfItems, depthOfMembers, List.length_append,
      List.length_cons] at ih more ⊢
    omega

/-- No character of the text is the null character. -/
def NoNull (t : List Char) : Prop := ∀ c ∈ t, c.toNat ≠ 0

instance (t : List Char) : Decidable (NoNull t) := List.decidableBAll _ t

theorem noNull_cons {c : Char} : NoNull (c :: t) ↔ c.toNat ≠ 0 ∧ NoNull t := List.forall_mem_cons

theorem noNull_append {t' : List Char} : NoNull (t ++ t') ↔ NoNull t ∧ NoNull t' :=
  List.forall_mem_append

theorem noNull_blank (blank : IsBlank t) : NoNull t := by
  have each : ∀ c ∈ blanks, c.toNat ≠ 0 :=
    forall_blanks (by decide) (by decide) (by decide) (by decide)
  exact fun c inside => each c (blank c inside)

theorem hexDigit_ne_null {n : Nat} {c : Char} (digit : HexDigit n c) : c.toNat ≠ 0 := by
  have lower : ∀ m : Fin 16, (m : Nat).digitChar.toNat ≠ 0 := by decide
  have upper : ∀ m : Fin 16, (m : Nat).digitChar.toUpper.toNat ≠ 0 := by decide
  cases digit with
  | lower small => exact lower ⟨n, small⟩
  | upper small => exact upper ⟨n, small⟩

theorem noNull_unit {n : Nat} (unit : HexUnit n t) : NoNull t := by
  cases unit with
  | digits first second third fourth =>
    simp only [noNull_cons]
    exact ⟨hexDigit_ne_null first, hexDigit_ne_null second, hexDigit_ne_null third,
      hexDigit_ne_null fourth, List.forall_mem_nil _⟩

theorem noNull_char {c : Char} (writes : WritesChar c t) : NoNull t := by
  have escape : NoNull ['\\', 'u'] := by decide
  cases writes with
  | itself printable =>
    exact noNull_cons.mpr ⟨by omega, by decide⟩
  | short inside =>
    simp only [shortEscapes, List.mem_cons, Prod.mk.injEq, List.not_mem_nil, or_false] at inside
    rcases inside with h | h | h | h | h | h | h | h <;> obtain ⟨rfl, rfl⟩ := h <;> decide
  | unit digits => exact noNull_append.mpr ⟨escape, noNull_unit digits⟩
  | pair _ high low =>
    have first := noNull_append.mpr ⟨escape, noNull_unit high⟩
    have second := noNull_append.mpr ⟨escape, noNull_unit low⟩
    exact noNull_append.mpr ⟨first, second⟩

theorem noNull_string {s : String} (writes : WritesString s t) : NoNull t := by
  obtain ⟨inside⟩ := writes
  have chars : ∀ {cs t}, WritesChars cs t → NoNull t := by
    intro cs t writes
    induction writes with
    | nil => exact List.forall_mem_nil _
    | cons first _ ih => exact noNull_append.mpr ⟨noNull_char first, ih⟩
  simp only [noNull_append, noNull_cons]
  exact ⟨⟨by decide, chars inside⟩, by decide⟩

theorem noNull_int {n : Int} (writes : WritesInt n t) : NoNull t := by
  have digits : ∀ m : Nat, NoNull (Nat.toDigits 10 m) := by
    intro m c inside
    have digit := Nat.isDigit_of_mem_toDigits (by decide) (Nat.le_refl 10) inside
    have least : 0 < '0'.toNat := by decide
    rw [Char.isDigit_iff_toNat] at digit
    omega
  cases writes with
  | natural m => exact digits m
  | negated m => exact noNull_cons.mpr ⟨by decide, digits m⟩

theorem noNull_writes (writes : Writes part t) : NoNull t := by
  induction writes with
  | null | yes | no => decide
  | int writes => exact noNull_int writes
  | str writes => exact noNull_string writes
  | emptyList blank | emptyObject blank =>
    simp only [noNull_append, noNull_cons]
    exact ⟨⟨by decide, noNull_blank blank⟩, by decide⟩
  | list blank _ ih | object blank _ ih =>
    simp only [noNull_append, noNull_cons]
    exact ⟨⟨by decide, noNull_blank blank⟩, ih⟩
  | lastItem _ blank ih =>
    simp only [noNull_append]
    exact ⟨⟨ih, noNull_blank blank⟩, by decide⟩
  | item _ blank₁ blank₂ _ ih more =>
    simp only [noNull_append, noNull_cons]
    exact ⟨⟨⟨ih, noNull_blank blank₁⟩, by decide, noNull_blank blank₂⟩, more⟩
  | lastMember named blank₁ blank₂ _ blank₃ ih =>
    simp only [noNull_append, noNull_cons]
    exact ⟨⟨⟨⟨⟨noNull_string named, noNull_blank blank₁⟩, by decide, noNull_blank blank₂⟩, ih⟩,
      noNull_blank blank₃⟩, by decide⟩
  | member named blank₁ blank₂ _ blank₃ blank₄ _ ih more =>
    simp only [noNull_append, noNull_cons]
    exact ⟨⟨⟨⟨⟨⟨noNull_string named, noNull_blank blank₁⟩, by decide, noNull_blank blank₂⟩, ih⟩,
      noNull_blank blank₃⟩, by decide, noNull_blank blank₄⟩, more⟩

end JsonText

open JsonText
variable {v : Value} {text : String}

theorem IsJsonText.depth_le (writes : IsJsonText v text) : v.depth ≤ text.toList.length := by
  cases writes with
  | text _ writes _ =>
    have within : v.depth ≤ _ := depth_le_length writes
    simp only [String.toList_ofList, List.length_append]
    omega

theorem IsJsonText.noNull (writes : IsJsonText v text) : NoNull text.toList := by
  cases writes with
  | text before writes after =>
    simp only [String.toList_ofList, noNull_append]
    exact ⟨⟨noNull_blank before, noNull_writes writes⟩, noNull_blank after⟩

/-- The text of an object begins with a blank or a brace. -/
theorem IsJsonText.head {ms : Members} (writes : IsJsonText (.obj ms) text) :
    ∀ c ∈ text.toList.head?, c ∈ '{' :: blanks := by
  cases writes with
  | @text before t after blank writes _ =>
    rw [String.toList_ofList]
    rintro c first
    cases before with
    | cons b before =>
      obtain rfl : b = c := Option.some.inj first
      exact List.mem_cons_of_mem _ (blank b List.mem_cons_self)
    | nil =>
      cases writes <;>
      · obtain rfl : '{' = c := Option.some.inj first
        exact List.mem_cons_self

theorem isJsonText_json (plain : v.IsPlain) : IsJsonText v v.json := by
  have text := IsJsonText.text JsonText.isBlank_nil (JsonText.writes_jsonChars plain)
    JsonText.isBlank_nil
  simpa [json] using text

end PortableSearch.Value
