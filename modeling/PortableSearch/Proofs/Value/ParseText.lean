import PortableSearch.Proofs.Value.JsonValue
import PortableSearch.Proofs.Value.ParseTokens

/-! Reading JSON texts. From each text of a value without fractions and repeated names, whose integers
are not too long and which is not nested too deep, the reader gets the value. -/
namespace PortableSearch.Value.Parser
open JsonText
variable {dialect : Dialect} {b cs t rest : List Char} {part : Part} {v : Value}
  {vs : List Value} {ms : List (String × Value)} {name : String} {fuel depth : Nat}

/-! Beginnings -/

/-- A character that neither stands between parts nor closes a list or an object. -/
def Begins (c : Char) : Prop := isSpace c = false ∧ c ≠ ']' ∧ c ≠ '}'

instance (c : Char) : Decidable (Begins c) := inferInstanceAs (Decidable (_ ∧ _))

theorem ne_of_isDigit {c d : Char} (digit : isDigit c = true) (other : isDigit d = false) :
    c ≠ d := by
  rintro rfl
  rw [other] at digit
  cases digit

theorem isDigit_begins {c : Char} (digit : isDigit c = true) : Begins c := by
  have other : ∀ d, isDigit d = false → c ≠ d := fun d => ne_of_isDigit digit
  have space : isSpace c = false := by
    simp [isSpace, other ' ' rfl, other '\n' rfl, other '\r' rfl, other '\t' rfl]
  exact ⟨space, other ']' rfl, other '}' rfl⟩

theorem toDigits_begins (n : Nat) :
    ∃ c cs, Nat.toDigits 10 n = c :: cs ∧ isDigit c = true := by
  cases shape : Nat.toDigits 10 n with
  | nil => exact absurd shape Nat.toDigits_ne_nil
  | cons c cs =>
    have inside : c ∈ Nat.toDigits 10 n := shape ▸ List.mem_cons_self
    exact ⟨c, cs, rfl, isDigit_toDigits c inside⟩

theorem writesInt_begins {n : Int} (writes : WritesInt n t) : ∃ c cs, t = c :: cs ∧ Begins c := by
  cases writes with
  | natural n =>
    obtain ⟨c, cs, shape, digit⟩ := toDigits_begins n
    exact ⟨c, cs, shape, isDigit_begins digit⟩
  | negated n => exact ⟨_, _, rfl, by decide⟩

theorem writes_begins (writes : Writes part t) : ∃ c cs, t = c :: cs ∧ Begins c := by
  induction writes with
  | null | yes | no => exact ⟨_, _, rfl, by decide⟩
  | int writes => exact writesInt_begins writes
  | str writes =>
    cases writes
    exact ⟨_, _, rfl, by decide⟩
  | emptyList | list | emptyObject | object => exact ⟨_, _, rfl, by decide⟩
  | lastItem _ _ ih | item _ _ _ _ ih =>
    obtain ⟨c, cs, rfl, begins⟩ := ih
    exact ⟨c, _, rfl, begins⟩
  | lastMember writes | member writes =>
    cases writes
    exact ⟨_, _, rfl, by decide⟩

theorem skipSpace_append (blank : IsBlank b) (rest : List Char) :
    skipSpace (b ++ rest) = skipSpace rest := by
  have spaces : ∀ c ∈ blanks, isSpace c = true := forall_blanks rfl rfl rfl rfl
  exact List.dropWhile_append_of_pos fun c inside => spaces c (blank c inside)

theorem skipSpace_blank (blank : IsBlank b) {c : Char} (mark : isSpace c = false) :
    skipSpace (b ++ c :: rest) = c :: rest := by
  rw [skipSpace_append blank, skipSpace, List.dropWhile_cons_of_neg (by simp [mark])]

theorem skipSpace_writes (blank : IsBlank b) (writes : Writes part t) (rest : List Char) :
    skipSpace (b ++ (t ++ rest)) = t ++ rest := by
  obtain ⟨c, cs, rfl, begins⟩ := writes_begins writes
  exact skipSpace_blank blank begins.1

/-! Scalars -/

theorem value_scalar {c : Char} (quote : c ≠ '"') (bracket : c ≠ '[') (brace : c ≠ '{') :
    value dialect (fuel + 1) depth (c :: cs) = scalar dialect (c :: cs) := by
  simp [value, quote, bracket, brace]

/-- An integer of 64 bits is short enough for every reader. -/
theorem takes_word {n : Int} (fits : FitsWord n) : dialect.Takes n := by
  have bound : n.natAbs < 10 ^ 20 := Nat.lt_trans (natAbs_of_fitsWord fits) (by decide)
  have length := (Nat.length_toDigits_le_iff (by decide) (by decide)).mpr bound
  have long : 20 + 1 ≤ Text.longestNumeral := by decide
  rw [Dialect.Takes]
  split <;> omega

theorem value_digit {c : Char} (digit : isDigit c = true) :
    value dialect (fuel + 1) depth (c :: cs) = number dialect false (c :: cs) := by
  have other : ∀ d, isDigit d = false → c ≠ d := fun d => ne_of_isDigit digit
  rw [value_scalar (other _ rfl) (other _ rfl) (other _ rfl), scalar]
  all_goals
    intro _ same
    exact absurd (List.cons.inj same).1 (other _ rfl)

theorem value_minus {c : Char} (digit : isDigit c = true) :
    value dialect (fuel + 1) depth ('-' :: c :: cs) = number dialect true (c :: cs) := by
  rw [value_scalar (by decide) (by decide) (by decide), scalar]
  intro _ same
  exact absurd (List.cons.inj same).1 (ne_of_isDigit digit rfl)

theorem value_int {n : Int} (takes : dialect.Takes n) (writes : WritesInt n t)
    (ends : EndsNumber rest) :
    value dialect (fuel + 1) depth (t ++ rest) = some (.int n, rest) := by
  cases writes with
  | natural n =>
    have read := number_toDigits takes false ends
    rw [Int.natAbs_natCast] at read
    obtain ⟨c, cs, shape, digit⟩ := toDigits_begins n
    rw [shape] at read ⊢
    rw [List.cons_append, value_digit digit]
    exact read
  | negated n =>
    have read := number_toDigits takes true ends
    rw [Int.natAbs_neg, Int.natAbs_natCast] at read
    obtain ⟨c, cs, shape, digit⟩ := toDigits_begins n
    rw [shape] at read ⊢
    rw [List.cons_append, List.cons_append, value_minus digit]
    exact read

/-! Lists and objects -/

theorem value_list (blank : IsBlank b) (writes : Writes (.items vs) t)
    (read : items dialect fuel depth (t ++ rest) = some (vs, rest)) :
    value dialect (fuel + 1) (depth + 1) ('[' :: b ++ t ++ rest) = some (.list vs, rest) := by
  have start := skipSpace_writes blank writes rest
  obtain ⟨c, cs, rfl, -, opens, -⟩ := writes_begins writes
  rw [List.cons_append] at start read
  simp [value, start, opens, read]

theorem value_object (distinct : (Members.names ms).Nodup) (blank : IsBlank b)
    (writes : Writes (.members ms) t)
    (read : members dialect fuel depth (t ++ rest) = some (ms, rest)) :
    value dialect (fuel + 1) (depth + 1) ('{' :: b ++ t ++ rest) = some (.obj ms, rest) := by
  have start := skipSpace_writes blank writes rest
  obtain ⟨c, cs, rfl, -, -, opens⟩ := writes_begins writes
  rw [List.cons_append] at start read
  simp [value, start, opens, read, Members.ofList_of_nodup distinct]

theorem items_last (blank : IsBlank b)
    (read : value dialect fuel depth (t ++ (b ++ ']' :: rest)) = some (v, b ++ ']' :: rest)) :
    items dialect (fuel + 1) depth (t ++ b ++ [']'] ++ rest) = some ([v], rest) := by
  have closed : skipSpace (b ++ ']' :: rest) = ']' :: rest := skipSpace_blank blank rfl
  simp [items, read, closed]

theorem items_more {b₁ b₂ t' : List Char} (blank₁ : IsBlank b₁) (blank₂ : IsBlank b₂)
    (read : value dialect fuel depth (t ++ (b₁ ++ ',' :: (b₂ ++ (t' ++ rest)))) =
      some (v, b₁ ++ ',' :: (b₂ ++ (t' ++ rest))))
    (more : Writes (.items vs) t')
    (readMore : items dialect fuel depth (t' ++ rest) = some (vs, rest)) :
    items dialect (fuel + 1) depth (t ++ b₁ ++ ',' :: b₂ ++ t' ++ rest) = some (v :: vs, rest) := by
  have comma : skipSpace (b₁ ++ ',' :: (b₂ ++ (t' ++ rest))) = ',' :: (b₂ ++ (t' ++ rest)) :=
    skipSpace_blank blank₁ rfl
  simp [items, read, comma, skipSpace_writes blank₂ more, readMore]

section
variable {n b₁ b₂ b₃ b₄ t' : List Char} (named : WritesString name n) (blank₁ : IsBlank b₁)
  (blank₂ : IsBlank b₂) (writes : Writes (.value v) t) (blank₃ : IsBlank b₃)
include named blank₁ blank₂ writes blank₃

theorem members_last
    (read : value dialect fuel depth (t ++ (b₃ ++ '}' :: rest)) = some (v, b₃ ++ '}' :: rest)) :
    members dialect (fuel + 1) depth (n ++ b₁ ++ ':' :: b₂ ++ t ++ b₃ ++ ['}'] ++ rest) =
      some ([(name, v)], rest) := by
  obtain ⟨inside, rfl, readName⟩ := string_writes named
  have closed : skipSpace (b₃ ++ '}' :: rest) = '}' :: rest := skipSpace_blank blank₃ rfl
  have colon : skipSpace (b₁ ++ ':' :: (b₂ ++ (t ++ (b₃ ++ '}' :: rest)))) =
      ':' :: (b₂ ++ (t ++ (b₃ ++ '}' :: rest))) := skipSpace_blank blank₁ rfl
  simp [members, readName, colon, skipSpace_writes blank₂ writes, read, closed]

theorem members_more (blank₄ : IsBlank b₄)
    (read : value dialect fuel depth (t ++ (b₃ ++ ',' :: (b₄ ++ (t' ++ rest)))) =
      some (v, b₃ ++ ',' :: (b₄ ++ (t' ++ rest))))
    (more : Writes (.members ms) t')
    (readMore : members dialect fuel depth (t' ++ rest) = some (ms, rest)) :
    members dialect (fuel + 1) depth
        (n ++ b₁ ++ ':' :: b₂ ++ t ++ b₃ ++ ',' :: b₄ ++ t' ++ rest) =
      some ((name, v) :: ms, rest) := by
  obtain ⟨inside, rfl, readName⟩ := string_writes named
  have comma : skipSpace (b₃ ++ ',' :: (b₄ ++ (t' ++ rest))) = ',' :: (b₄ ++ (t' ++ rest)) :=
    skipSpace_blank blank₃ rfl
  have colon : skipSpace (b₁ ++ ':' :: (b₂ ++ (t ++ (b₃ ++ ',' :: (b₄ ++ (t' ++ rest)))))) =
      ':' :: (b₂ ++ (t ++ (b₃ ++ ',' :: (b₄ ++ (t' ++ rest))))) := skipSpace_blank blank₁ rfl
  simp [members, readName, colon, skipSpace_writes blank₂ writes, read, comma,
    skipSpace_writes blank₄ more, readMore]

end

/-! Whole texts -/

/-- A reader takes the integers of a part, and its values are nested at most so deep. -/
def Admits (dialect : Dialect) (depth : Nat) : Part → Prop
  | .value v => v.IsTree dialect.Takes ∧ v.depth ≤ depth
  | .items vs => ItemsTrees dialect.Takes vs ∧ depthOfItems vs ≤ depth
  | .members ms => MembersTrees dialect.Takes ms ∧ depthOfMembers ms ≤ depth

/-- From a text the reader gets a part, and stops where the rest begins. -/
def Reads (dialect : Dialect) (fuel depth : Nat) (cs rest : List Char) : Part → Prop
  | .value v => EndsNumber rest → value dialect fuel depth cs = some (v, rest)
  | .items vs => items dialect fuel depth cs = some (vs, rest)
  | .members ms => members dialect fuel depth cs = some (ms, rest)

/-- Every part is read back, whatever follows its text. -/
theorem writes_read (writes : Writes part t) (fuel depth : Nat) (rest : List Char)
    (admits : Admits dialect depth part) (short : t.length ≤ fuel) :
    Reads dialect (fuel + 1) depth (t ++ rest) rest part := by
  -- Each step takes one unit of fuel and at least one character, so the length of the text is
  -- enough fuel.
  induction writes generalizing fuel depth rest with
  | null | yes | no => exact fun _ => rfl
  | int writes => exact value_int admits.1 writes
  | str writes =>
    obtain ⟨inside, rfl, read⟩ := string_writes writes
    intro _
    simp [value, read]
  | @emptyList b blank =>
    intro _
    have closed : skipSpace (b ++ ']' :: rest) = ']' :: rest := skipSpace_blank blank rfl
    simp [value, closed]
  | @list vs b t blank writes ih =>
    intro _
    obtain ⟨tree, deep⟩ := admits
    rw [IsTree] at tree
    rw [Value.depth] at deep
    simp only [List.length_append, List.length_cons] at short
    obtain ⟨fuel, rfl⟩ : ∃ f, fuel = f + 1 := ⟨fuel - 1, by omega⟩
    obtain ⟨depth, rfl⟩ : ∃ d, depth = d + 1 := ⟨depth - 1, by omega⟩
    exact value_list blank writes (ih fuel depth rest ⟨tree, by omega⟩ (by omega))
  | @emptyObject b blank =>
    intro _
    have closed : skipSpace (b ++ '}' :: rest) = '}' :: rest := skipSpace_blank blank rfl
    simp [value, closed]
  | @object ms b t blank writes ih =>
    intro _
    obtain ⟨⟨distinct, tree⟩, deep⟩ := admits
    rw [Value.depth] at deep
    simp only [List.length_append, List.length_cons] at short
    obtain ⟨fuel, rfl⟩ : ∃ f, fuel = f + 1 := ⟨fuel - 1, by omega⟩
    obtain ⟨depth, rfl⟩ : ∃ d, depth = d + 1 := ⟨depth - 1, by omega⟩
    exact value_object distinct blank writes (ih fuel depth rest ⟨tree, by omega⟩ (by omega))
  | @lastItem v t b writes blank ih =>
    obtain ⟨⟨tree, -⟩, deep⟩ := admits
    rw [depthOfItems] at deep
    simp only [List.length_append, List.length_cons] at short
    obtain ⟨fuel, rfl⟩ : ∃ f, fuel = f + 1 := ⟨fuel - 1, by omega⟩
    have ends : EndsNumber (b ++ ']' :: rest) :=
      endsNumber_blank blank (endsNumber_cons (by decide))
    exact items_last blank (ih fuel depth _ ⟨tree, by omega⟩ (by omega) ends)
  | @item v vs t b₁ b₂ t' writes blank₁ blank₂ more ih ihMore =>
    obtain ⟨⟨tree, others⟩, deep⟩ := admits
    rw [depthOfItems] at deep
    simp only [List.length_append, List.length_cons] at short
    obtain ⟨fuel, rfl⟩ : ∃ f, fuel = f + 1 := ⟨fuel - 1, by omega⟩
    have ends : EndsNumber (b₁ ++ ',' :: (b₂ ++ (t' ++ rest))) :=
      endsNumber_blank blank₁ (endsNumber_cons (by decide))
    have read := ih fuel depth _ ⟨tree, by omega⟩ (by omega) ends
    exact items_more blank₁ blank₂ read more (ihMore fuel depth rest ⟨others, by omega⟩ (by omega))
  | @lastMember name v n b₁ b₂ t b₃ named blank₁ blank₂ writes blank₃ ih =>
    obtain ⟨⟨tree, -⟩, deep⟩ := admits
    rw [depthOfMembers] at deep
    simp only [List.length_append, List.length_cons] at short
    obtain ⟨inside, rfl, -⟩ := string_writes named
    obtain ⟨fuel, rfl⟩ : ∃ f, fuel = f + 1 := ⟨fuel - 1, by omega⟩
    have ends : EndsNumber (b₃ ++ '}' :: rest) :=
      endsNumber_blank blank₃ (endsNumber_cons (by decide))
    exact members_last named blank₁ blank₂ writes blank₃
      (ih fuel depth _ ⟨tree, by omega⟩ (by omega) ends)
  | @member name v ms n b₁ b₂ t b₃ b₄ t' named blank₁ blank₂ writes blank₃ blank₄ more ih ihMore =>
    obtain ⟨⟨tree, others⟩, deep⟩ := admits
    rw [depthOfMembers] at deep
    simp only [List.length_append, List.length_cons] at short
    obtain ⟨inside, rfl, -⟩ := string_writes named
    obtain ⟨fuel, rfl⟩ : ∃ f, fuel = f + 1 := ⟨fuel - 1, by omega⟩
    have ends : EndsNumber (b₃ ++ ',' :: (b₄ ++ (t' ++ rest))) :=
      endsNumber_blank blank₃ (endsNumber_cons (by decide))
    have read := ih fuel depth _ ⟨tree, by omega⟩ (by omega) ends
    have readMore := ihMore fuel depth rest ⟨others, by omega⟩ (by omega)
    exact members_more named blank₁ blank₂ writes blank₃ blank₄ read more readMore

/-- Every text of a value whose integers the reader takes is read as the value. -/
theorem parse?_tree {text : String} (writes : IsJsonText v text) (tree : v.IsTree dialect.Takes)
    (deep : v.depth ≤ dialect.depth) : parse? dialect text.toList = some v := by
  cases writes with
  | @text before t after blank writes blankAfter =>
    have ends : EndsNumber after := by
      rw [← List.append_nil after]
      exact endsNumber_blank blankAfter nofun
    have start : skipSpace (before ++ (t ++ after)) = t ++ after :=
      skipSpace_writes blank writes after
    have read : value dialect ((before ++ t ++ after).length + 1) dialect.depth (t ++ after) =
        some (v, after) := by
      refine writes_read writes _ _ after ⟨tree, deep⟩ ?_ ends
      simp only [List.length_append]
      omega
    have nothing : skipSpace after = [] := by
      rw [← List.append_nil after, skipSpace_append blankAfter]
      rfl
    rw [String.toList_ofList, parse?, List.append_assoc, start, ← List.append_assoc, read]
    simp [nothing]

theorem parse?_text {text : String} (writes : IsJsonText v text) (plain : v.IsPlain)
    (deep : v.depth ≤ dialect.depth) : parse? dialect text.toList = some v :=
  parse?_tree writes (isTree_of_plain (fun _ => takes_word) plain) deep

theorem parse?_json (plain : v.IsPlain) (deep : v.depth ≤ dialect.depth) :
    parse? dialect v.json.toList = some v :=
  parse?_text (isJsonText_json plain) plain deep

theorem parse?_not_record (read : parse? dialect cs = some v) :
    ∀ kinds given fields others, v ≠ .record kinds given fields others := by
  rintro kinds given fields others rfl
  cases parse?_json_value read

end PortableSearch.Value.Parser
