import PortableSearch.Proofs.Members

/-! Properties that a list or an object has where each of its values has it. Members have such a
property when others are set or joined, and so do those that are left when null is left out. -/
namespace PortableSearch

namespace Value

/-- The property is that of the parts of a value: numbers and texts have it, lists and objects have
it where their values do, and what else holds values has it only there. -/
structure Partwise (P : Value → Prop) : Prop where
  int : ∀ n, P (.int n)
  float : ∀ x, P (.float x)
  str : ∀ s, P (.str s)
  list : ∀ {vs : List Value}, P (.list vs) ↔ ∀ v ∈ vs, P v
  obj : ∀ {ms : Members}, P (.obj ms) ↔ ∀ m ∈ ms, P m.2
  pair : ∀ {name : String} {v : Value}, P (.pair name v) → P v
  record : ∀ {kinds given : List String} {fields others : Members},
    P (.record kinds given fields others) → ∀ m ∈ fields ++ others, P (.pair m.1 m.2)

theorem Partwise.members {P : Value → Prop} (whole : Partwise P) {kinds given : List String}
    {fields others : Members} (own : P (.record kinds given fields others)) :
    ∀ m ∈ fields ++ others, P m.2 :=
  fun m inside => whole.pair (whole.record own m inside)

theorem present?_eq_some {v w : Value} : v.present? = some w ↔ v = w ∧ w ≠ .null := by
  cases v <;> cases w <;> simp [present?]

theorem present?_ofOption_id (o : Option Value) : (ofOption id o).present? = o.bind present? := by
  cases o <;> rfl

end Value

namespace Members

/-- The values of all members have the property. -/
abbrev Each (P : Value → Prop) (ms : Members) : Prop := ∀ m ∈ ms, P m.2

variable {P : Value → Prop} {ms more : Members} {name : String} {v : Value}

theorem Each.append (first : ms.Each P) (second : more.Each P) : Each P (ms ++ more) :=
  List.forall_mem_append.mpr ⟨first, second⟩

theorem Each.put (others : ms.Each P) (own : P v) : (ms.put name v).Each P := by
  intro m inside
  rcases mem_of_mem_put inside with there | rfl
  · exact others m there
  · exact own

theorem Each.ofList (each : ms.Each P) : (ofList ms).Each P := by
  intro m inside
  have there := (mem_of_mem_update inside).resolve_left List.not_mem_nil
  exact each m there

theorem Each.get (each : ms.Each P) (name : String) : ms.get name = .null ∨ P (ms.get name) := by
  rw [Members.get]
  cases found : ms.lookup name with
  | none => exact .inl rfl
  | some v => exact .inr (each _ (mem_of_lookup found))

theorem each_optional {o : Option Value} (own : ∀ v, o = some v → P v) :
    Each P (optional name o) := by
  intro m inside
  cases o with
  | none => cases inside
  | some v =>
    cases List.mem_singleton.mp inside
    exact own v rfl

/-- Only the members that are not null count. -/
theorem each_compact (present : ∀ m ∈ ms, ∀ v, m.2.present? = some v → P v) :
    ms.compact.Each P := by
  induction ms with
  | nil => exact fun _ inside => absurd inside List.not_mem_nil
  | cons m rest ih =>
    obtain ⟨here, later⟩ := List.forall_mem_cons.mp present
    rw [compact_cons]
    exact (each_optional here).append (ih later)

end Members

end PortableSearch
