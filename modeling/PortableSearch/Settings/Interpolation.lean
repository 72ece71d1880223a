import PortableSearch.Settings.EnvFile

/-! References in the values of a file of variables. `${NAME}` stands for the value of a variable,
and `${NAME:-text}` for the text where there is no such variable. A variable of the environment
comes before one that the file has bound above. -/
namespace PortableSearch.Settings.EnvFile

/-- A reference to a variable, with the text that stands for a missing one. -/
structure Reference where
  name : List Char
  fallback : List Char
deriving DecidableEq, Repr

/-- The text before the closing brace, and the text after it. -/
def readToBrace (cs : List Char) : Option (List Char × List Char) :=
  match cs.dropWhile (· != '}') with
  | [] => none
  | _ :: rest => some (cs.takeWhile (· != '}'), rest)

/-- Reads the inside of a reference and the brace that closes it. -/
def readReference (cs : List Char) : Option (Reference × List Char) :=
  let name := cs.takeWhile fun c => c != '}' && c != ':'
  match cs.dropWhile fun c => c != '}' && c != ':' with
  | '}' :: rest => some (⟨name, []⟩, rest)
  | ':' :: '-' :: rest => (readToBrace rest).map fun r => (⟨name, r.1⟩, r.2)
  | _ => none

theorem readToBrace_length {cs text rest : List Char} (h : readToBrace cs = some (text, rest)) :
    rest.length ≤ cs.length := by
  unfold readToBrace at h
  have bound := (List.dropWhile_sublist (l := cs) fun c => c != '}').length_le
  split at h
  · cases h
  · next c tail eq =>
    cases h
    rw [eq] at bound
    exact Nat.le_trans (Nat.le_succ _) bound

theorem readReference_length {cs rest : List Char} {r : Reference}
    (h : readReference cs = some (r, rest)) : rest.length ≤ cs.length := by
  unfold readReference at h
  have bound := (List.dropWhile_sublist (l := cs) fun c => c != '}' && c != ':').length_le
  simp only at h
  split at h
  · next tail eq =>
    cases h
    rw [eq] at bound
    exact Nat.le_trans (Nat.le_succ _) bound
  · next tail eq =>
    rw [eq] at bound
    cases found : readToBrace tail with
    | none => simp [found] at h
    | some p =>
      obtain ⟨text, after⟩ := p
      simp only [found, Option.map_some, Option.some.injEq, Prod.mk.injEq] at h
      have shorter := readToBrace_length found
      simp only [List.length_cons] at bound
      rw [← h.2]
      omega
  · cases h

/-- Replaces the references in a text. A variable without value stands for nothing. -/
def expand (lookup? : String → Option (Option String)) (cs : List Char) : List Char :=
  match cs with
  | [] => []
  | '$' :: '{' :: inner =>
    match read : readReference inner with
    | some (reference, rest) =>
      have : rest.length < inner.length + 1 + 1 :=
        Nat.lt_of_le_of_lt (readReference_length read) (by omega)
      let text := match lookup? (String.ofList reference.name) with
        | some value => (value.getD "").toList
        | none => reference.fallback
      text ++ expand lookup? rest
    | none => '$' :: expand lookup? ('{' :: inner)
  | c :: rest => c :: expand lookup? rest
termination_by cs.length

/-- Bindings with one more, whose references are replaced. -/
def addResolved (environment : List (String × String)) (done : List (String × Option String))
    (binding : String × Option String) : List (String × Option String) :=
  let lookup? (name : String) : Option (Option String) :=
    ((environment.lookup name).map some).or (done.reverse.lookup name)
  done ++ [(binding.1, binding.2.map fun s => String.ofList (expand lookup? s.toList))]

/-- The bindings with their references replaced. -/
def resolve (environment : List (String × String)) (bindings : List (String × Option String)) :
    List (String × Option String) :=
  bindings.foldl (addResolved environment) []

/-- Whether a variable can be set: neither its name nor its value holds the character NUL, and its
name holds no equals sign. -/
def isSettable (name value : String) : Bool :=
  !(name.toList ++ value.toList).contains (Char.ofNat 0) && !name.toList.contains '='

/-- Whether all variables that a file adds to the environment can be set. -/
def areSettable (environment : List (String × String))
    (bindings : List (String × Option String)) : Bool :=
  bindings.all fun b =>
    (environment.lookup b.1).isSome || ((valueOf? bindings b.1).all (isSettable b.1))

end PortableSearch.Settings.EnvFile
