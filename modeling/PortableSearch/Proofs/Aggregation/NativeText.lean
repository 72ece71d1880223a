import PortableSearch.Proofs.Aggregation.Entries
import PortableSearch.Proofs.Text.Encoding
import PortableSearch.Proofs.Value.ParseText

/-! The forms of a native body. The object itself, each of its JSON texts and the bytes of a text
are the same body, so an aggregation is compiled to the same entry from each of them, or fails
alike. -/
namespace PortableSearch.Aggregation
open Value

/-- Integers that native text can hold. -/
def Native.Short (n : Int) : Prop := (Nat.toDigits 10 n.natAbs).length ≤ 4300

theorem Native.isTree_of_plain {v : Value} (plain : v.IsPlain) : v.IsTree Native.Short := by
  have short : ∀ n, FitsWord n → (dialect 0).Takes n := fun _ => Parser.takes_word
  exact Value.isTree_of_plain short plain

variable {ms : Members} {text : String}

theorem Native.readText_writes (tree : (obj ms).IsTree Native.Short)
    (writes : IsJsonText (.obj ms) text) : readText text.toList = .ok ms := by
  -- In native text the limit on the length of an integer does not count its sign.
  have takes : (obj ms).IsTree (dialect text.toList.length).Takes := tree
  rw [readText, Parser.parse?_tree writes takes writes.depth_le]

/-- A JSON text is told to be UTF-8 by its first bytes and has no half of a surrogate pair. -/
theorem Native.decode?_writes (writes : IsJsonText (.obj ms) text) :
    Text.Encoding.decode? text.toUTF8.toList = some text.toList := by
  have ascii : ∀ c ∈ '{' :: JsonText.blanks, c.toNat < 0x80 :=
    List.forall_mem_cons.mpr ⟨by decide, JsonText.forall_blanks (by decide) (by decide)
      (by decide) (by decide)⟩
  exact Text.Encoding.decode?_toUTF8 writes.noNull fun c first => ascii c (writes.head c first)

/-- Of a native value only the members that are read from it matter. -/
theorem compileAll_native {value value' : Value} (same : Native.read value = Native.read value')
    (setting : Setting) (key : String) (count : Option Int) (children : List Aggregation) :
    compileAll setting [.mk key (.native value) count children] =
      compileAll setting [.mk key (.native value') count children] := by
  have content : (Body.native value).compile setting key =
      (Body.native value').compile setting key := by
    rw [Body.compile, Body.compile, same]
  rw [compileAll_singleton, compileAll_singleton, entry, entry, content]
  rfl

/-- An object and the texts and bytes that write it are compiled alike, also where they cannot be
compiled. -/
theorem native_forms_compile_alike (tree : (obj ms).IsTree Native.Short)
    (writes : IsJsonText (.obj ms) text) (setting : Setting) (key : String) (count : Option Int)
    (children : List Aggregation) :
    compileAll setting [.mk key (.native (.str text)) count children] =
        compileAll setting [.mk key (.native (.obj ms)) count children] ∧
      compileAll setting [.mk key (.native (.bytes text.toUTF8)) count children] =
        compileAll setting [.mk key (.native (.obj ms)) count children] := by
  have fromText : Native.read (.str text) = .ok ms := Native.readText_writes tree writes
  have fromBytes : Native.read (.bytes text.toUTF8) = .ok ms := by
    rw [Native.read, Native.decode?_writes writes]
    exact fromText
  exact ⟨compileAll_native fromText .., compileAll_native fromBytes ..⟩

/-- A text with blanks, an escape and a letter of two bytes. -/
theorem sampler_forms_compile_alike :
    let field : Members := [("field", .str "größe"), ("shard_size", .int (-1))]
    let ms : Members := [("sampler", .obj field)]
    let text := String.ofList (['\n', '{', ' ', '"', 's', '\\', 'u', '0', '0', '6', '1'] ++
      ['m', 'p', 'l', 'e', 'r', '"', ' ', ':'] ++ (obj field).jsonChars ++ ['}', '\t'])
    let setting : Setting := ⟨none, ⟨0, some 0⟩⟩
    let compiled (value : Value) := compileAll setting
      [.mk "key" (.native value) (some 2) [.mk "price" (.stats "price") none []]]
    let nested : Members := [("price", .obj [("stats", .obj [("field", .str "price")])])]
    let entry : Members :=
      [("sampler", .obj field), ("aggs", .obj nested), ("min_doc_count", .int 2)]
    (obj ms).IsTree Native.Short ∧ IsJsonText (.obj ms) text ∧
      compiled (.obj ms) = .ok [("key", .obj entry)] ∧
      compiled (.str text) = .ok [("key", .obj entry)] ∧
      compiled (.bytes text.toUTF8) = .ok [("key", .obj entry)] := by
  intro field ms text setting compiled nested entry
  have word : FitsWord (-1) := by
    unfold FitsWord
    decide
  have plain : (obj field).IsPlain := ⟨by decide, trivial, word, trivial⟩
  have tree : (obj ms).IsTree Native.Short :=
    Native.isTree_of_plain ⟨by decide, plain, trivial⟩
  have blank : ∀ c ∈ JsonText.blanks, JsonText.IsBlank [c] := fun c inside =>
    List.forall_mem_singleton.mpr inside
  have none : JsonText.IsBlank [] := JsonText.isBlank_nil
  have escaped : JsonText.HexUnit 'a'.toNat ['0', '0', '6', '1'] :=
    .digits (.lower (by decide : 0 < 16)) (.lower (by decide : 0 < 16))
      (.lower (by decide : 6 < 16)) (.lower (by decide : 1 < 16))
  have plainly := JsonText.writesChars_jsonEscape ['m', 'p', 'l', 'e', 'r']
  have name : JsonText.WritesString "sampler" _ :=
    .quoted (.cons (.itself (by decide) (by decide) (by decide)) (.cons (.unit escaped) plainly))
  have member := JsonText.Writes.lastMember name (blank ' ' (by decide)) none
    (JsonText.writes_jsonChars plain) none
  have whole := IsJsonText.text (blank '\n' (by decide))
    (.object (blank ' ' (by decide)) member) (blank '\t' (by decide))
  have writes : IsJsonText (.obj ms) text := by
    exact whole
  obtain ⟨fromText, fromBytes⟩ := native_forms_compile_alike tree writes setting "key" (some 2)
    [.mk "price" (.stats "price") .none []]
  have object : compiled (.obj ms) = .ok [("key", .obj entry)] := rfl
  exact ⟨tree, writes, object, fromText.trans object, fromBytes.trans object⟩

end PortableSearch.Aggregation
