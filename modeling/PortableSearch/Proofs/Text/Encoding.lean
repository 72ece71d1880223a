import PortableSearch.Text.Encoding
import Mathlib.Tactic.SplitIfs

/-! Texts read from their bytes in UTF-8. The encoding of bytes is told by where zeros and marks
stand among the first of them, so it is UTF-8 where there is neither. Bytes of half a surrogate pair
are replaced; a text has none. -/
namespace PortableSearch.Text.Encoding
variable {bytes : List UInt8}

/-! Bytes as a list -/

theorem toList_loop (bytes : ByteArray) (i : Nat) (read : List UInt8) :
    ByteArray.toList.loop bytes i read = read.reverse ++ bytes.data.toList.drop i := by
  fun_induction ByteArray.toList.loop bytes i read with
  | case1 i read inside ih =>
    have there : i < bytes.data.toList.length := by simpa using inside
    rw [ih, List.drop_eq_getElem_cons there]
    simp [ByteArray.get!, inside]
  | case2 i read beyond =>
    rw [List.drop_eq_nil_of_le (by simpa using Nat.le_of_not_lt beyond), List.append_nil]

theorem toList_eq (bytes : ByteArray) : bytes.toList = bytes.data.toList := by
  rw [ByteArray.toList, toList_loop]
  rfl

theorem toList_toUTF8 (s : String) :
    s.toUTF8.toList = s.toList.flatMap String.utf8EncodeChar := by
  have encoded : s.toUTF8 = s.toList.utf8Encode := by
    rw [String.toUTF8_eq_toByteArray, ← String.toByteArray_ofList, String.ofList_toList]
  rw [encoded, toList_eq, List.utf8Encode, List.data_toByteArray]

theorem fromUTF8?_toUTF8 (s : String) : String.fromUTF8? s.toUTF8 = some s := by
  have valid : s.toUTF8.IsValidUTF8 := s.isValidUTF8
  rw [String.fromUTF8?, dif_pos valid]
  rfl

/-! Half pairs -/

theorem replaceHalfPairs_cons {a : UInt8} {rest : List UInt8}
    (whole : a = 0xED → ∀ b ∈ rest.head?, b < 0xA0) :
    replaceHalfPairs (a :: rest) = a :: replaceHalfPairs rest := by
  match rest with
  | [] => rfl
  | [b] => rfl
  | b :: c :: rest =>
    rw [replaceHalfPairs, if_neg]
    intro half
    simp only [Bool.and_eq_true, decide_eq_true_eq] at half
    have low := whole half.1.1.1.1 b rfl
    exact absurd half.1.1.1.2 (UInt8.not_le.mpr low)

theorem ofNat_ne {n : Nat} {b : UInt8} (different : n % 256 ≠ b.toNat) : UInt8.ofNat n ≠ b := by
  rintro rfl
  exact different UInt8.toNat_ofNat'.symm

/-- The bytes of a character are not those of half a surrogate pair. -/
theorem replaceHalfPairs_char (c : Char) (rest : List UInt8) :
    replaceHalfPairs (String.utf8EncodeChar c ++ rest) =
      String.utf8EncodeChar c ++ replaceHalfPairs rest := by
  have valid : c.val.toNat < 0xD800 ∨ 0xDFFF < c.val.toNat ∧ c.val.toNat < 0x110000 := c.valid
  have other : ∀ {n : Nat} {bytes : List UInt8}, n % 256 ≠ 0xED →
      replaceHalfPairs (UInt8.ofNat n :: bytes) = UInt8.ofNat n :: replaceHalfPairs bytes :=
    fun different => replaceHalfPairs_cons fun same => absurd same (ofNat_ne different)
  simp only [String.utf8EncodeChar]
  split_ifs with one two three
  · exact other (by omega)
  · rw [List.cons_append, List.singleton_append, other (by omega), other (by omega)]
    rfl
  · -- The first byte is 0xED from U+D000 on, and what is not half a pair ends before U+D800.
    have low : UInt8.ofNat (c.val.toNat / 4096 % 16 + 224) = 0xED →
        UInt8.ofNat (c.val.toNat / 64 % 64 + 128) < 0xA0 := by
      intro same
      have first : (c.val.toNat / 4096 % 16 + 224) % 256 = 0xED := congrArg UInt8.toNat same
      show (c.val.toNat / 64 % 64 + 128) % 256 < 0xA0
      omega
    rw [List.cons_append, List.cons_append, List.singleton_append, replaceHalfPairs_cons,
      other (by omega), other (by omega)]
    · rfl
    · rintro same _ ⟨rfl⟩
      exact low same
  · rw [List.cons_append, List.cons_append, List.cons_append, List.singleton_append,
      other (by omega), other (by omega), other (by omega), other (by omega)]
    rfl

theorem replaceHalfPairs_utf8 (cs : List Char) :
    replaceHalfPairs (cs.flatMap String.utf8EncodeChar) = cs.flatMap String.utf8EncodeChar := by
  induction cs with
  | nil => rfl
  | cons c cs ih => rw [List.flatMap_cons, replaceHalfPairs_char, ih]

/-! Texts in UTF-8 -/

theorem unmarked_utf8 (nonzero : ∀ b ∈ bytes, b ≠ 0) : unmarked bytes = .utf8 := by
  unfold unmarked
  split
  next a b _ _ _ =>
    have first := nonzero a (by simp)
    have second := nonzero b (by simp)
    simp [first, second]
  next a b =>
    have first := nonzero a (by simp)
    have second := nonzero b (by simp)
    simp [first, second]
  next => rfl

/-- A mark begins with a zero or with a byte that is not ASCII. -/
theorem no_mark (nonzero : ∀ b ∈ bytes, b ≠ 0) (ascii : ∀ b ∈ bytes.head?, b < 0x80) :
    ∀ mark ∈ marks, mark.1.isPrefixOf bytes = false := by
  have differs : ∀ {b : UInt8} {more : List UInt8}, b = 0 ∨ 0x80 ≤ b →
      (b :: more).isPrefixOf bytes = false := by
    intro b more mark
    cases bytes with
    | nil => rfl
    | cons a rest =>
      have other : b ≠ a := by
        rintro rfl
        rcases mark with zero | large
        · exact nonzero b List.mem_cons_self zero
        · exact absurd (ascii b rfl) (UInt8.not_lt.mpr large)
      simp [List.isPrefixOf, other]
  intro mark inside
  simp only [marks, List.mem_cons, List.not_mem_nil, or_false] at inside
  rcases inside with rfl | rfl | rfl | rfl | rfl
  · exact differs (.inl rfl)
  all_goals exact differs (.inr (by decide))

/-- Bytes without zeros of which the first is ASCII are taken for UTF-8 without a mark. -/
theorem detect_utf8 (nonzero : ∀ b ∈ bytes, b ≠ 0) (ascii : ∀ b ∈ bytes.head?, b < 0x80) :
    detect bytes = (.utf8, 0) := by
  have none : marks.find? (fun mark => mark.1.isPrefixOf bytes) = none := by
    refine List.find?_eq_none.mpr fun mark inside => ?_
    rw [no_mark nonzero ascii mark inside]
    exact Bool.false_ne_true
  rw [detect, none, unmarked_utf8 nonzero]

theorem utf8EncodeChar_ne_zero {c : Char} (other : c.toNat ≠ 0) :
    ∀ b ∈ String.utf8EncodeChar c, b ≠ 0 := by
  have nonzero : c.val.toNat ≠ 0 := other
  have each : ∀ {n : Nat}, n % 256 ≠ 0 → UInt8.ofNat n ≠ 0 := fun other => ofNat_ne other
  simp only [String.utf8EncodeChar]
  split_ifs <;> simp only [List.forall_mem_cons]
  · exact ⟨each (by omega), List.forall_mem_nil _⟩
  · exact ⟨each (by omega), each (by omega), List.forall_mem_nil _⟩
  · exact ⟨each (by omega), each (by omega), each (by omega), List.forall_mem_nil _⟩
  · exact ⟨each (by omega), each (by omega), each (by omega), each (by omega),
      List.forall_mem_nil _⟩

theorem utf8EncodeChar_ascii {c : Char} (ascii : c.toNat < 0x80) :
    String.utf8EncodeChar c = [UInt8.ofNat c.toNat] :=
  if_pos (Nat.le_of_lt_succ ascii)

/-- A text without null characters that begins with an ASCII character is read from its bytes in
UTF-8. -/
theorem decode?_toUTF8 {s : String} (noNull : ∀ c ∈ s.toList, c.toNat ≠ 0)
    (ascii : ∀ c ∈ s.toList.head?, c.toNat < 0x80) :
    decode? s.toUTF8.toList = some s.toList := by
  have nonzero : ∀ b ∈ s.toUTF8.toList, b ≠ 0 := by
    rw [toList_toUTF8]
    intro b inside
    obtain ⟨c, there, own⟩ := List.mem_flatMap.mp inside
    exact utf8EncodeChar_ne_zero (noNull c there) b own
  have first : ∀ b ∈ s.toUTF8.toList.head?, b < 0x80 := by
    rw [toList_toUTF8]
    cases shape : s.toList with
    | nil => nofun
    | cons c cs =>
      have small : c.toNat < 0x80 := ascii c (by rw [shape]; rfl)
      rw [List.flatMap_cons, utf8EncodeChar_ascii small]
      rintro _ ⟨rfl⟩
      show c.toNat % 256 < 0x80
      omega
  have whole : (⟨(replaceHalfPairs s.toUTF8.toList).toArray⟩ : ByteArray) = s.toUTF8 := by
    rw [toList_toUTF8, replaceHalfPairs_utf8, ← toList_toUTF8, toList_eq]
  rw [decode?, detect_utf8 nonzero first]
  simp only [List.drop_zero]
  rw [whole, fromUTF8?_toUTF8]
  rfl

end PortableSearch.Text.Encoding
