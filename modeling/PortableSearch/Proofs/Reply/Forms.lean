import PortableSearch.Reply.Decode
import PortableSearch.Proofs.Shape.Sources
import PortableSearch.Proofs.Text.Encoding
import PortableSearch.Proofs.Value.ParseText

/-! The forms of a reply. A transport hands over the same reply as JSON text, as the bytes of the
text, as parsed data, or inside a response object; all are decoded to the same result, or all are
malformed. -/
namespace PortableSearch.Reply
open Shape Value

/-- The forms of the reply with these members. -/
inductive FormOf (ms : Members) : Raw → Prop where
  | text {text} : IsJsonText (.obj ms) text → FormOf ms (.data (.str text))
  | bytes {text} : IsJsonText (.obj ms) text → FormOf ms (.data (.bytes text.toUTF8))
  | object : FormOf ms (.data (.obj ms))
  | response (typeName : String) : FormOf ms (.response typeName (.obj ms))

variable {ms : Members} {raw : Raw}

/-- A text and its bytes are read as the data that the text holds, up to what depends on the
source. -/
theorem checkRaw_form (plain : (obj ms).IsPlain) (deep : (obj ms).depth ≤ 200)
    (form : FormOf ms raw) :
    checkRaw raw = check .text (.obj ms) ∨ checkRaw raw = check .data (.obj ms) := by
  have parsed : ∀ {text}, IsJsonText (.obj ms) text →
      checkText text.toList = check .text (.obj ms) := by
    intro text writes
    rw [checkText, Parser.parse?_text writes plain deep]
  cases form with
  | text writes => exact .inl (parsed writes)
  | bytes writes =>
    left
    rw [checkRaw, Text.Encoding.fromUTF8?_toUTF8]
    exact parsed writes
  | object => exact .inr rfl
  | response => exact .inr rfl

theorem check_agrees {v : Value} (plain : v.IsPlain) (r : Value) :
    check .text v = .ok r ↔ check .data v = .ok r := by
  rw [check, check, mapError_ok, mapError_ok]
  exact read_agrees (.record resultType) plain r

/-- The forms of a reply are decoded alike. -/
theorem forms_decode_alike (plain : (obj ms).IsPlain) (deep : (obj ms).depth ≤ 200) :
    (∃ result, ∀ raw, FormOf ms raw → decode raw = .ok result) ∨
      ∀ raw, FormOf ms raw → ∃ fault, decode raw = .error fault := by
  cases checked : check .data (.obj ms) with
  | ok r =>
    left
    refine ⟨.ofRecord r, fun raw form => ?_⟩
    have read : checkRaw raw = .ok r := by
      rcases checkRaw_form plain deep form with same | same
      · rw [same, check_agrees plain, checked]
      · rw [same, checked]
    rw [decode, read]
    rfl
  | error faults =>
    right
    intro raw form
    have read : ∃ fault, checkRaw raw = .error fault := by
      rcases checkRaw_form plain deep form with same | same
      · cases there : check .text (.obj ms) with
        | error fault => exact ⟨fault, by rw [same, there]⟩
        | ok r =>
          rw [check_agrees plain, checked] at there
          cases there
      · exact ⟨faults, by rw [same, checked]⟩
    obtain ⟨fault, read⟩ := read
    exact ⟨fault, by rw [decode, read]; rfl⟩

/-- A name with an escape and blanks between the parts of the text. -/
theorem escaped_name_decodes_alike :
    let ms : Members := [("took", .int 1), ("hits", .obj [("total", .int 0)])]
    let text := String.ofList (['{', ' ', '"', 't', '\\', 'u', '0', '0', '6', 'F', 'o', 'k', '"',
      ' ', ':', '1', ','] ++ jsonMembers [("hits", .obj [("total", .int 0)])] ++ ['}', ' '])
    (obj ms).IsPlain ∧ (obj ms).depth ≤ 200 ∧ IsJsonText (.obj ms) text ∧
    ∃ result, decode (.data (.str text)) = .ok result ∧
      decode (.data (.bytes text.toUTF8)) = .ok result ∧ decode (.data (.obj ms)) = .ok result ∧
      decode (.response "ObjectApiResponse" (.obj ms)) = .ok result := by
  intro ms text
  have word : FitsWord 1 ∧ FitsWord 0 := by
    unfold FitsWord
    decide
  have rest : MembersPlain [("hits", .obj [("total", .int 0)])] :=
    ⟨⟨by decide, word.2, trivial⟩, trivial⟩
  have plain : (obj ms).IsPlain := ⟨by decide, word.1, rest⟩
  have deep : (obj ms).depth ≤ 200 := by decide
  have blank : JsonText.IsBlank [' '] := List.forall_mem_singleton.mpr (by decide)
  have none : JsonText.IsBlank [] := JsonText.isBlank_nil
  have escaped : JsonText.HexUnit 'o'.toNat ['0', '0', '6', 'F'] :=
    .digits (.lower (by decide : 0 < 16)) (.lower (by decide : 0 < 16))
      (.lower (by decide : 6 < 16)) (.upper (by decide : 15 < 16))
  have plainly : ∀ c ∈ ['t', 'o', 'k'], JsonText.WritesChar c [c] := by
    intro c inside
    simp only [List.mem_cons, List.not_mem_nil, or_false] at inside
    rcases inside with rfl | rfl | rfl <;> exact .itself (by decide) (by decide) (by decide)
  have chars : JsonText.WritesChars "took".toList
      ['t', '\\', 'u', '0', '0', '6', 'F', 'o', 'k'] :=
    .cons (plainly 't' (by decide)) (.cons (.unit escaped)
      (.cons (plainly 'o' (by decide)) (.cons (plainly 'k' (by decide)) .nil)))
  have members := JsonText.Writes.member (.quoted chars) blank none (.int (.natural 1)) none none
    (JsonText.writes_jsonMembers (List.cons_ne_nil _ _) rest)
  have writes : IsJsonText (.obj ms) text := by
    have whole := IsJsonText.text none (.object blank members) blank
    exact whole
  refine ⟨plain, deep, writes, ?_⟩
  have decoded : decode (.data (.obj ms)) = .ok _ := rfl
  rcases forms_decode_alike plain deep with ⟨result, alike⟩ | malformed
  · exact ⟨result, alike _ (.text writes), alike _ (.bytes writes), alike _ .object,
      alike _ (.response _)⟩
  · obtain ⟨fault, failed⟩ := malformed _ .object
    rw [decoded] at failed
    cases failed

end PortableSearch.Reply
