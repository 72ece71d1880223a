import PortableSearch.Proofs.Shape.Offences

/-! Changes to a value in independent parts. A value is changed in two ways, and in both at once; no
part is changed by both. If nothing is wrong with the value itself, then with both changes there is
wrong just what is wrong with either. -/
namespace PortableSearch.Shape

/-- A thing before it is changed, after each of two changes, and after both. -/
structure Versions (α : Type) where
  base : α
  first : α
  second : α
  both : α

namespace Versions
variable {α β : Type}

def map (f : α → β) (vs : Versions α) : Versions β :=
  ⟨f vs.base, f vs.first, f vs.second, f vs.both⟩

/-- Only one of the changes is one. -/
def OneSided (vs : Versions α) : Prop :=
  vs.first = vs.base ∧ vs.both = vs.second ∨ vs.second = vs.base ∧ vs.both = vs.first

/-- A list of which each item is changed. -/
def items (vs : List (Versions Value)) : Versions Value :=
  ⟨.list (vs.map base), .list (vs.map first), .list (vs.map second), .list (vs.map both)⟩

/-- An object of which each member is changed. -/
def members (ms : List (String × Versions Value)) : Versions Value :=
  let select (version : Versions Value → Value) : Value :=
    .obj (ms.map fun m => (m.1, version m.2))
  ⟨select base, select first, select second, select both⟩

end Versions

/-- The changes are in independent parts of a value, as it is read at a type. -/
inductive Merged : FieldType → Versions Value → Prop
  | oneSided {t : FieldType} {vs : Versions Value} : vs.OneSided → Merged t vs
  | nullable {t : FieldType} {vs : Versions Value} : vs.base ≠ .null → vs.first ≠ .null →
    vs.second ≠ .null → vs.both ≠ .null → Merged t vs → Merged (.nullable t) vs
  | list {t : FieldType} {vs : List (Versions Value)} :
    (∀ v ∈ vs, Merged t v) → Merged (.list false t) (.items vs)
  | dict {t : FieldType} {ms : List (String × Versions Value)} :
    (∀ m ∈ ms, Merged t m.2) → Merged (.dict t) (.members ms)
  | record {type : RecordType FieldType} {objects : Versions Members} :
    (∀ f ∈ type.fields, ¬ (objects.map f.foundIn).OneSided →
      ∃ name vs, objects.map f.foundIn = Versions.map (fun v => some (name, v)) vs) →
    (∀ f ∈ type.fields, ∀ name vs,
      objects.map f.foundIn = Versions.map (fun v => some (name, v)) vs → Merged f.type vs) →
    Merged (.record type) (objects.map .obj)
  | prepared {preparation : Preparation} {t : FieldType} {vs ws : Versions Value} :
    vs.map preparation.apply = ws.map .ok → Merged t ws → Merged (.prepared preparation t) vs

/-- A record is changed in independent parts if each field is changed by one side alone or in
independent parts of what it is found as. -/
theorem Merged.of_fields {type : RecordType FieldType} {objects : Versions Members}
    (each : ∀ f ∈ type.fields, (objects.map f.foundIn).OneSided ∨ ∃ name vs,
      objects.map f.foundIn = Versions.map (fun v => some (name, v)) vs ∧ Merged f.type vs) :
    Merged (.record type) (objects.map .obj) := by
  have injective (name : String) {v w : Value} (same : some (name, v) = some (name, w)) : v = w :=
    (Prod.mk.inj (Option.some.inj same)).2
  refine .record (fun f inside both => ?_) fun f inside name vs same => ?_
  · obtain ⟨name, vs, same, -⟩ := (each f inside).resolve_left both
    exact ⟨name, vs, same⟩
  · rcases each f inside with one | ⟨name', vs', same', merged⟩
    · rw [same] at one
      apply Merged.oneSided
      exact one.imp (fun both => ⟨injective name both.1, injective name both.2⟩)
        fun both => ⟨injective name both.1, injective name both.2⟩
    · obtain ⟨base, first, second, both⟩ := vs
      cases same.symm.trans same'
      exact merged

variable {t : FieldType} {place : List Nat} {fault : Fault}

theorem parts_union {γ : Type} {as : List γ} {W W₁ W₂ : Nat → γ → List Nat → Prop}
    (each : ∀ i a, as[i]? = some a → ∀ p, W i a p ↔ W₁ i a p ∨ W₂ i a p) :
    (∃ i p, place = i :: p ∧ ∃ a, as[i]? = some a ∧ W i a p) ↔
      (∃ i p, place = i :: p ∧ ∃ a, as[i]? = some a ∧ W₁ i a p) ∨
        ∃ i p, place = i :: p ∧ ∃ a, as[i]? = some a ∧ W₂ i a p := by
  constructor
  · rintro ⟨i, p, rfl, a, found, own⟩
    rcases (each i a found p).mp own with first | second
    · exact .inl ⟨i, p, rfl, a, found, first⟩
    · exact .inr ⟨i, p, rfl, a, found, second⟩
  · rintro (⟨i, p, rfl, a, found, own⟩ | ⟨i, p, rfl, a, found, own⟩)
    · exact ⟨i, p, rfl, a, found, (each i a found p).mpr (.inl own)⟩
    · exact ⟨i, p, rfl, a, found, (each i a found p).mpr (.inr own)⟩

/-- The items of a list are selected from the versions of these. -/
theorem offends_items {γ : Type} {vs : List γ} {version : γ → Value} :
    Offends (.list false t) (.list (vs.map version)) place fault ↔ ∃ i p, place = i :: p ∧
      ∃ v, vs[i]? = some v ∧ ∃ g, Offends t (version v) p g ∧ fault = g.under (.index i) := by
  rw [offends_list rfl rfl]
  simp only [List.getElem?_map, Option.map_eq_some_iff]
  refine exists_congr fun i => exists_congr fun p => and_congr_right fun _ => ?_
  exact ⟨fun ⟨_, ⟨v, found, same⟩, own⟩ => ⟨v, found, same ▸ own⟩,
    fun ⟨v, found, own⟩ => ⟨_, ⟨v, found, rfl⟩, own⟩⟩

theorem offends_members {γ : Type} {ms : List (String × γ)} {version : γ → Value} :
    Offends (.dict t) (.obj (ms.map fun m => (m.1, version m.2))) place fault ↔
      ∃ i p, place = i :: p ∧ ∃ m, ms[i]? = some m ∧
        ∃ g, Offends t (version m.2) p g ∧ fault = g.under (.name m.1) := by
  rw [offends_dict]
  simp only [List.getElem?_map, Option.map_eq_some_iff]
  refine exists_congr fun i => exists_congr fun p => and_congr_right fun _ => ?_
  constructor
  · rintro ⟨name, v, ⟨m, found, same⟩, own⟩
    cases same
    exact ⟨m, found, own⟩
  · rintro ⟨m, found, own⟩
    exact ⟨_, _, ⟨m, found, rfl⟩, own⟩

theorem offendsIn_found {f : FieldSpec FieldType} {ms : Members} {name : String} {v : Value}
    (found : f.foundIn ms = some (name, v)) : f.OffendsIn ms place fault ↔
      ∃ g, Offends f.type v place g ∧ fault = g.under (.name name) := by
  rw [FieldSpec.OffendsIn, found]

theorem offendsIn_congr {f : FieldSpec FieldType} {ms ms' : Members}
    (same : f.foundIn ms = f.foundIn ms') :
    f.OffendsIn ms place fault ↔ f.OffendsIn ms' place fault := by
  rw [FieldSpec.OffendsIn, FieldSpec.OffendsIn, same]

/-- What is wrong inside parts, seen from the whole. -/
theorem under_union {W W₁ W₂ : Fault → Prop} {step : Step} (each : ∀ g, W g ↔ W₁ g ∨ W₂ g) :
    (∃ g, W g ∧ fault = g.under step) ↔
      (∃ g, W₁ g ∧ fault = g.under step) ∨ ∃ g, W₂ g ∧ fault = g.under step := by
  simp only [each, or_and_right, exists_or]

/-- By induction on the parts that are changed. -/
theorem Merged.offends {vs : Versions Value} (merged : Merged t vs)
    (right : ∀ place fault, ¬ Offends t vs.base place fault) (place : List Nat) (fault : Fault) :
    Offends t vs.both place fault ↔
      Offends t vs.first place fault ∨ Offends t vs.second place fault := by
  induction merged generalizing place fault with
  | oneSided one =>
    rcases one with ⟨first, both⟩ | ⟨second, both⟩
    · rw [both, first]
      exact (or_iff_right (right place fault)).symm
    · rw [both, second]
      exact (or_iff_left (right place fault)).symm
  | nullable base first second both _ ih =>
    rw [offends_nullable first, offends_nullable second, offends_nullable both]
    exact ih (fun p f own => right p f (.nullable base own)) place fault
  | list merged ih =>
    simp only [Versions.items] at right ⊢
    rw [offends_items, offends_items, offends_items]
    refine parts_union fun i v found p => under_union fun g => ?_
    exact ih v (List.mem_of_getElem? found)
      (fun p g own => right _ _ (offends_items.mpr ⟨i, p, rfl, v, found, g, own, rfl⟩)) p g
  | dict merged ih =>
    simp only [Versions.members] at right ⊢
    rw [offends_members, offends_members, offends_members]
    refine parts_union fun i m found p => under_union fun g => ?_
    exact ih m (List.mem_of_getElem? found)
      (fun p g own => right _ _ (offends_members.mpr ⟨i, p, rfl, m, found, g, own, rfl⟩)) p g
  | @record type objects agree merged ih =>
    simp only [Versions.map] at right ⊢
    rw [offends_record, offends_record, offends_record]
    refine parts_union fun i f there p => ?_
    have inside : f ∈ type.fields := List.mem_of_getElem? there
    have sound : ∀ p g, ¬ f.OffendsIn objects.base p g := fun p g own =>
      right _ _ (offends_record.mpr ⟨i, p, rfl, f, there, own⟩)
    by_cases one : (objects.map f.foundIn).OneSided
    · rcases one with ⟨first, both⟩ | ⟨second, both⟩
      · rw [offendsIn_congr (show f.foundIn objects.both = _ from both),
          offendsIn_congr (show f.foundIn objects.first = _ from first)]
        exact (or_iff_right (sound p fault)).symm
      · rw [offendsIn_congr (show f.foundIn objects.both = _ from both),
          offendsIn_congr (show f.foundIn objects.second = _ from second)]
        exact (or_iff_left (sound p fault)).symm
    · obtain ⟨name, vs, same⟩ := agree f inside one
      have base : f.foundIn objects.base = some (name, vs.base) := congrArg Versions.base same
      have first : f.foundIn objects.first = some (name, vs.first) := congrArg Versions.first same
      have second : f.foundIn objects.second = some (name, vs.second) :=
        congrArg Versions.second same
      have both : f.foundIn objects.both = some (name, vs.both) := congrArg Versions.both same
      rw [offendsIn_found first, offendsIn_found second, offendsIn_found both]
      refine under_union fun g => ih f inside name vs same (fun p g own => ?_) p g
      exact sound p _ ((offendsIn_found base).mpr ⟨g, own, rfl⟩)
  | @prepared preparation t vs ws applied _ ih =>
    have base : preparation.apply vs.base = .ok ws.base := congrArg Versions.base applied
    have first : preparation.apply vs.first = .ok ws.first := congrArg Versions.first applied
    have second : preparation.apply vs.second = .ok ws.second := congrArg Versions.second applied
    have both : preparation.apply vs.both = .ok ws.both := congrArg Versions.both applied
    rw [offends_prepared first, offends_prepared second, offends_prepared both]
    exact ih (fun p f own => right p f (.prepared base own)) place fault

end PortableSearch.Shape
