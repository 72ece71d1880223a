import PortableSearch.Value.Parser
import PortableSearch.Proofs.Value.Partwise
import PortableSearch.Proofs.Outcome

/-! JSON values: null, flags, numbers and texts, and lists and objects of JSON values. Whatever is
read from a JSON text is one. -/
namespace PortableSearch

mutual

/-- The value is null, a flag, a number, a text, or a list or an object of such values, however
deep. -/
def Value.isJson : Value → Bool
  | .null | .bool _ | .int _ | .float _ | .str _ => true
  | .list vs => itemsJson vs
  | .obj ms => membersJson ms
  | .bytes _ | .moment _ | .pair .. | .choice .. | .record .. => false

def Value.itemsJson : List Value → Bool
  | [] => true
  | v :: vs => isJson v && itemsJson vs

def Value.membersJson : List (String × Value) → Bool
  | [] => true
  | (_, v) :: ms => isJson v && membersJson ms

end

namespace Value

theorem isJson_list {vs : List Value} :
    (Value.list vs).isJson = true ↔ ∀ v ∈ vs, v.isJson = true := by
  rw [isJson]
  induction vs with
  | nil => simp [itemsJson]
  | cons v vs ih => rw [itemsJson, Bool.and_eq_true, ih, List.forall_mem_cons]

theorem isJson_obj {ms : Members} :
    (Value.obj ms).isJson = true ↔ ∀ m ∈ ms, m.2.isJson = true := by
  rw [isJson]
  induction ms with
  | nil => simp [membersJson]
  | cons m ms ih => rw [membersJson, Bool.and_eq_true, ih, List.forall_mem_cons]

theorem isJson_partwise : Partwise fun v => v.isJson = true where
  int _ := rfl
  float _ := rfl
  str _ := rfl
  list := isJson_list
  obj := isJson_obj
  pair json := by cases json
  record json := by cases json

namespace Parser

variable {dialect : Dialect} {cs rest : List Char} {v : Value}

theorem number_json {negative : Bool} (read : number dialect negative cs = some (v, rest)) :
    v.isJson = true := by
  obtain ⟨whole, -, accepted⟩ := Option.bind_eq_some_iff.mp read
  obtain ⟨-, -, after⟩ := Option.bind_eq_some_iff.mp accepted
  obtain ⟨fraction, -, after⟩ := Option.bind_eq_some_iff.mp after
  obtain ⟨power, -, made⟩ := Option.bind_eq_some_iff.mp after
  dsimp only at made
  split at made
  all_goals
    obtain ⟨n, -, same⟩ := Option.bind_eq_some_iff.mp made
    cases same
    rfl

theorem scalar_json (read : scalar dialect cs = some (v, rest)) : v.isJson = true := by
  unfold scalar at read
  split at read
  all_goals first
    | exact number_json read
    | cases read; rfl

/-- What is read with some fuel is JSON. -/
structure ReadsJson (dialect : Dialect) (fuel : Nat) : Prop where
  value : ∀ {depth cs v rest}, value dialect fuel depth cs = some (v, rest) → v.isJson = true
  items : ∀ {depth cs vs rest}, items dialect fuel depth cs = some (vs, rest) →
    ∀ v ∈ vs, v.isJson = true
  members : ∀ {depth cs ms rest}, members dialect fuel depth cs = some (ms, rest) →
    ∀ m ∈ ms, m.2.isJson = true

theorem value_json {fuel depth : Nat} (less : ReadsJson dialect fuel)
    (read : value dialect (fuel + 1) depth cs = some (v, rest)) : v.isJson = true := by
  unfold value at read
  split at read
  next =>
    obtain ⟨r, -, same⟩ := Option.map_eq_some_iff.mp read
    cases same
    rfl
  next =>
    split at read
    · cases read
      rfl
    · cases read
    · obtain ⟨r, inner, same⟩ := Option.map_eq_some_iff.mp read
      cases same
      exact isJson_list.mpr (less.items inner)
  next =>
    split at read
    · cases read
      rfl
    · cases read
    · obtain ⟨r, inner, same⟩ := Option.map_eq_some_iff.mp read
      cases same
      rw [isJson_obj]
      split
      · exact less.members inner
      · exact Members.Each.ofList (P := fun v => v.isJson = true) (less.members inner)
  next => exact scalar_json read

theorem items_json {fuel depth : Nat} {vs : List Value} (less : ReadsJson dialect fuel)
    (read : items dialect (fuel + 1) depth cs = some (vs, rest)) : ∀ v ∈ vs, v.isJson = true := by
  rw [items, Option.bind_eq_bind, Option.bind_eq_some_iff] at read
  obtain ⟨⟨v, after⟩, first, more⟩ := read
  dsimp only at more
  split at more
  next =>
    cases more
    exact List.forall_mem_singleton.mpr (less.value first)
  next =>
    obtain ⟨r, others, same⟩ := Option.map_eq_some_iff.mp more
    cases same
    exact List.forall_mem_cons.mpr ⟨less.value first, less.items others⟩
  next => cases more

theorem members_json {fuel depth : Nat} {ms : Members} (less : ReadsJson dialect fuel)
    (read : members dialect (fuel + 1) depth cs = some (ms, rest)) :
    ∀ m ∈ ms, m.2.isJson = true := by
  unfold members at read
  split at read
  next =>
    rw [Option.bind_eq_bind, Option.bind_eq_some_iff] at read
    obtain ⟨⟨name, after⟩, -, named⟩ := read
    dsimp only at named
    split at named
    next =>
      rw [Option.bind_eq_bind, Option.bind_eq_some_iff] at named
      obtain ⟨⟨v, after⟩, first, more⟩ := named
      dsimp only at more
      split at more
      next =>
        cases more
        exact List.forall_mem_singleton.mpr (less.value first)
      next =>
        obtain ⟨r, others, same⟩ := Option.map_eq_some_iff.mp more
        cases same
        exact List.forall_mem_cons.mpr ⟨less.value first, less.members others⟩
      next => cases more
    next => cases named
  next => cases read

theorem readsJson (dialect : Dialect) (fuel : Nat) : ReadsJson dialect fuel := by
  induction fuel with
  | zero => exact ⟨nofun, nofun, nofun⟩
  | succ fuel ih => exact ⟨value_json ih, items_json ih, members_json ih⟩

/-- Whatever a text is read as, it is JSON. -/
theorem parse?_json_value (read : parse? dialect cs = some v) : v.isJson = true := by
  rw [parse?] at read
  split at read
  next found =>
    split at read
    · cases read
      exact (readsJson dialect _).value found
    · cases read
  next => cases read

end Parser

end Value

end PortableSearch
