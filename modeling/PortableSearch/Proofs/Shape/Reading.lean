import PortableSearch.Shape.FieldType
import PortableSearch.Proofs.Members
import PortableSearch.Proofs.Outcome

/-! What a value is read as, where it can be read. Independent parts are read where each of them is,
and a record is read field by field, each from the member that it is found under. -/
namespace PortableSearch.Shape

namespace Checked
variable {α β : Type}

theorem within_ok {step : Step} {c : Checked α} {a : α} : within step c = .ok a ↔ c = .ok a := by
  cases c <;> simp [within]

theorem both_ok {x : Checked α} {y : Checked β} {p : α × β} :
    both x y = .ok p ↔ x = .ok p.1 ∧ y = .ok p.2 := by
  cases x <;> cases y <;> simp [both, Prod.ext_iff]

theorem gather_ok {cs : List (Checked α)} {as : List α} :
    gather cs = .ok as ↔ List.Forall₂ (fun c a => c = .ok a) cs as := by
  induction cs generalizing as with
  | nil => cases as <;> simp [gather]
  | cons c cs ih =>
    rw [gather, map_ok, List.forall₂_cons_left_iff]
    constructor
    · rintro ⟨⟨a, rest⟩, parts, rfl⟩
      obtain ⟨first, others⟩ := both_ok.mp parts
      exact ⟨a, rest, first, ih.mp others, rfl⟩
    · rintro ⟨a, rest, first, others, rfl⟩
      exact ⟨(a, rest), both_ok.mpr ⟨first, ih.mpr others⟩, rfl⟩

/-- The steps are of no account where nothing fails. -/
theorem gather_mapIdx_ok (step : Nat → Step) {cs : List (Checked α)} {as : List α} :
    gather (cs.mapIdx fun i c => within (step i) c) = .ok as ↔
      List.Forall₂ (fun c a => c = .ok a) cs as := by
  rw [gather_ok]
  induction cs generalizing step as with
  | nil => simp
  | cons c cs ih =>
    rw [List.mapIdx_cons]
    cases as with
    | nil => simp
    | cons a as => rw [List.forall₂_cons, List.forall₂_cons, within_ok, ih fun i => step (i + 1)]

theorem gatherIndexed_ok {cs : List (Checked α)} {as : List α} :
    gatherIndexed cs = .ok as ↔ List.Forall₂ (fun c a => c = .ok a) cs as :=
  gather_mapIdx_ok .index

theorem named_ok {step : Step} {name : String} {c : Checked α} {p : String × α} :
    ((within step c).map fun a => (name, a)) = .ok p ↔ p.1 = name ∧ c = .ok p.2 := by
  obtain ⟨n, a⟩ := p
  rw [map_ok]
  constructor
  · rintro ⟨b, read, same⟩
    obtain ⟨rfl, rfl⟩ := Prod.mk.inj same
    exact ⟨rfl, within_ok.mp read⟩
  · rintro ⟨rfl, read⟩
    exact ⟨a, within_ok.mpr read, rfl⟩

theorem gatherNamed_ok {cs : List (String × Checked α)} {as : List (String × α)} :
    gatherNamed cs = .ok as ↔
      List.Forall₂ (fun c a => a.1 = c.1 ∧ c.2 = .ok a.2) cs as := by
  rw [gatherNamed, gather_ok, List.forall₂_map_left_iff]
  simp only [named_ok]

end Checked

variable {source : Source} {ms : Members} {f : FieldSpec FieldType}
  {fields : List (FieldSpec FieldType)} {type : RecordType FieldType}

/-- The value that a field is read from: under its outer name, or else under its own. -/
def FieldSpec.valueIn {τ : Type} (f : FieldSpec τ) (ms : Members) : Option Value :=
  (ms.lookup f.outerName).or (ms.lookup f.name)

/-- What a field is read as: what its value is read as, or its fallback if it has none. -/
def FieldSpec.ReadsAs (source : Source) (f : FieldSpec FieldType) (ms : Members) (w : Value) :
    Prop :=
  match f.valueIn ms with
  | some v => f.type.read source v = .ok w
  | none => f.fallback = some w

theorem FieldSpec.valueIn_of_lookup {v : Value} (found : ms.lookup f.outerName = some v) :
    f.valueIn ms = some v := by
  rw [valueIn, found, Option.some_or]

theorem readField_ok {p : String × Value} :
    readField source f ms = .ok p ↔ p.1 = f.name ∧ f.ReadsAs source ms p.2 := by
  obtain ⟨name, outerName, type, fallback⟩ := f
  simp only [readField, FieldSpec.ReadsAs, FieldSpec.valueIn]
  cases ms.lookup outerName with
  | some v => exact Checked.named_ok
  | none =>
    cases ms.lookup name with
    | some v => exact Checked.named_ok
    | none => cases fallback <;> simp [Prod.ext_iff, eq_comm]

theorem readFields_ok {out : Members} : readFields source fields ms = .ok out ↔
    List.Forall₂ (fun f p => p.1 = f.name ∧ f.ReadsAs source ms p.2) fields out := by
  induction fields generalizing out with
  | nil => cases out <;> simp [readFields]
  | cons f fields ih =>
    rw [readFields, map_ok, List.forall₂_cons_left_iff]
    constructor
    · rintro ⟨⟨p, rest⟩, parts, rfl⟩
      obtain ⟨first, others⟩ := Checked.both_ok.mp parts
      exact ⟨p, rest, readField_ok.mp first, ih.mp others, rfl⟩
    · rintro ⟨p, rest, first, others, rfl⟩
      exact ⟨(p, rest), Checked.both_ok.mpr ⟨readField_ok.mpr first, ih.mpr others⟩, rfl⟩

/-- The field of a name that no other has is found among what the fields are read as. -/
theorem readFields_get {out : Members} (distinct : (fields.map FieldSpec.name).Nodup)
    (read : readFields source fields ms = .ok out) (inside : f ∈ fields) :
    f.ReadsAs source ms (out.get f.name) := by
  have each := readFields_ok.mp read
  clear read
  induction each with
  | nil => cases inside
  | @cons g p fields out first _ ih =>
    obtain ⟨name, v⟩ := p
    obtain ⟨rfl, own⟩ := first
    obtain ⟨fresh, distinct⟩ := List.nodup_cons.mp distinct
    rw [Members.get_cons]
    rcases List.mem_cons.mp inside with rfl | later
    · rw [if_pos rfl]
      exact own
    · have other : f.name ≠ g.name := fun same => fresh (same ▸ List.mem_map_of_mem later)
      rw [if_neg other]
      exact ih distinct later

/-- The members of a name are left over: no field is written under it, and a field of that name is
found under another. -/
def LeftOver {τ : Type} (fields : List (FieldSpec τ)) (ms : Members) (name : String) : Prop :=
  ∀ f ∈ fields, f.outerName ≠ name ∧ (f.name = name → f.outerName ∈ ms.names)

instance {τ : Type} (fields : List (FieldSpec τ)) (ms : Members) (name : String) :
    Decidable (LeftOver fields ms name) := inferInstanceAs (Decidable (∀ f ∈ fields, _))

theorem not_leftOver {τ : Type} {fields : List (FieldSpec τ)} {ms : Members} {f : FieldSpec τ}
    (inside : f ∈ fields) : ¬ LeftOver fields ms f.outerName :=
  fun left => (left f inside).1 rfl

theorem unusedMembers_eq {τ : Type} (fields : List (FieldSpec τ)) (ms : Members) :
    unusedMembers fields ms = ms.filter fun m => decide (LeftOver fields ms m.1) := by
  refine List.filter_congr fun m inside => ?_
  have there : m.1 ∈ ms.names := List.mem_map_of_mem inside
  rw [Bool.eq_iff_iff]
  simp only [Bool.not_eq_true', List.contains_eq_mem, decide_eq_false_iff_not, decide_eq_true_eq,
    List.mem_filterMap, not_exists, not_and]
  refine forall₂_congr fun f _ => ?_
  by_cases outer : f.outerName ∈ ms.names
  · simp [FieldSpec.nameIn, outer]
  · have other : f.outerName ≠ m.1 := fun same => outer (same ▸ there)
    by_cases own : f.name ∈ ms.names
    · simp [FieldSpec.nameIn, outer, own, other]
    · have absent : f.name ≠ m.1 := fun same => own (same ▸ there)
      simp [FieldSpec.nameIn, outer, own, other, absent]

/-! Whole values -/

/-- The items of a value that is a list or stands for one. -/
def listed? : Value → Option (List Value)
  | .list vs => some vs
  | .record _ _ fields others => some (fieldPairs (fields ++ others))
  | _ => none

theorem read_list_eq (nonempty : Bool) (t : FieldType) (v : Value) :
    (FieldType.list nonempty t).read source v = match listed? v with
      | some vs => if nonempty && vs.isEmpty then .defect .tooShort
        else (Checked.gatherIndexed (vs.map fun v => t.read source v)).map .list
      | none => .defect .notList := by
  cases v <;> simp only [FieldType.read, listed?]

theorem read_list_ok {t : FieldType} {vs : List Value} {w : Value} :
    (FieldType.list false t).read source (.list vs) = .ok w ↔ ∃ ws, w = .list ws ∧
      List.Forall₂ (fun v w => t.read source v = .ok w) vs ws := by
  simp only [FieldType.read, Bool.false_and, Bool.false_eq_true, if_false, map_ok,
    Checked.gatherIndexed_ok, List.forall₂_map_left_iff]
  exact ⟨fun ⟨ws, each, same⟩ => ⟨ws, same.symm, each⟩,
    fun ⟨ws, same, each⟩ => ⟨ws, each, same.symm⟩⟩

theorem read_list_readable {t : FieldType} {vs : List Value} :
    (∃ w, (FieldType.list false t).read source (.list vs) = .ok w) ↔
      ∀ v ∈ vs, ∃ w, t.read source v = .ok w := by
  rw [← exists_forall₂]
  simp only [read_list_ok]
  exact ⟨fun ⟨_, ws, _, each⟩ => ⟨ws, each⟩, fun ⟨ws, each⟩ => ⟨_, ws, rfl, each⟩⟩

theorem read_dict_ok {t : FieldType} {w : Value} :
    (FieldType.dict t).read .data (.obj ms) = .ok w ↔ ∃ out, w = .obj out ∧
      List.Forall₂ (fun m p => p.1 = m.1 ∧ t.read .data m.2 = .ok p.2) ms out := by
  rw [FieldType.read, map_ok]
  simp only [Checked.gatherNamed_ok, List.forall₂_map_left_iff, Source.lastOfEach]
  exact ⟨fun ⟨out, each, same⟩ => ⟨out, same.symm, each⟩,
    fun ⟨out, same, each⟩ => ⟨out, each, same.symm⟩⟩

theorem exists_named {n : String} {P : Value → Prop} :
    (∃ p : String × Value, p.1 = n ∧ P p.2) ↔ ∃ w, P w :=
  ⟨fun ⟨p, _, own⟩ => ⟨p.2, own⟩, fun ⟨w, own⟩ => ⟨(n, w), rfl, own⟩⟩

theorem read_dict_readable {t : FieldType} :
    (∃ w, (FieldType.dict t).read .data (.obj ms) = .ok w) ↔
      ∀ m ∈ ms, ∃ w, t.read .data m.2 = .ok w := by
  have each : (∃ out, List.Forall₂
        (fun m (p : String × Value) => p.1 = m.1 ∧ t.read .data m.2 = .ok p.2) ms out) ↔
      ∀ m ∈ ms, ∃ w, t.read .data m.2 = .ok w := by
    rw [exists_forall₂]
    exact forall₂_congr fun m _ => exists_named (P := fun w => t.read .data m.2 = .ok w)
  rw [← each]
  simp only [read_dict_ok]
  exact ⟨fun ⟨_, out, _, each⟩ => ⟨out, each⟩, fun ⟨out, each⟩ => ⟨_, out, rfl, each⟩⟩

/-- A record of an object of data is built from what its fields are read as. -/
theorem read_record_ok {r : Value} : (FieldType.record type).read .data (.obj ms) = .ok r ↔
    ∃ out, readFields .data type.fields ms = .ok out ∧
      buildRecord .data [type.kind] type ms out = r := by
  obtain ⟨kind, fields, keepsOthers⟩ := type
  rw [FieldType.read, map_ok]
  rfl

/-- The fields of a record are those that its members are read as. -/
theorem read_record_field {r : Value} (distinct : (type.fields.map FieldSpec.name).Nodup)
    (read : (FieldType.record type).read .data (.obj ms) = .ok r) (inside : f ∈ type.fields) :
    f.ReadsAs .data ms (r.fields.get f.name) := by
  obtain ⟨out, each, rfl⟩ := read_record_ok.mp read
  exact readFields_get distinct each inside

theorem read_record_given {r v : Value} (distinct : (type.fields.map FieldSpec.name).Nodup)
    (read : (FieldType.record type).read .data (.obj ms) = .ok r) (inside : f ∈ type.fields)
    (found : f.valueIn ms = some v) : f.type.read .data v = .ok (r.fields.get f.name) := by
  have field := read_record_field distinct read inside
  rwa [FieldSpec.ReadsAs, found] at field

/-- A record can be read where each of its fields can. -/
theorem read_record_readable : (∃ r, (FieldType.record type).read .data (.obj ms) = .ok r) ↔
    ∀ f ∈ type.fields, ∃ w, f.ReadsAs .data ms w := by
  have each : (∃ out, List.Forall₂
        (fun f (p : String × Value) => p.1 = f.name ∧ f.ReadsAs .data ms p.2) type.fields out) ↔
      ∀ f ∈ type.fields, ∃ w, f.ReadsAs .data ms w := by
    rw [exists_forall₂]
    exact forall₂_congr fun f _ => exists_named
  rw [← each]
  simp only [read_record_ok, readFields_ok]
  exact ⟨fun ⟨_, out, each, _⟩ => ⟨out, each⟩, fun ⟨out, each⟩ => ⟨_, out, each, rfl⟩⟩

/-- A record can be read with another value in the member of a field if the field can. -/
theorem read_record_replaced {ms' : Members} {v : Value} (inside : f ∈ type.fields)
    (only : ∀ g ∈ type.fields, g.outerName = f.outerName ∨ g.name = f.outerName → g = f)
    (others : ∀ n, n ≠ f.outerName → ms'.lookup n = ms.lookup n)
    (found : ms'.lookup f.outerName = some v) (own : ∃ w, f.type.read .data v = .ok w)
    (read : ∃ r, (FieldType.record type).read .data (.obj ms) = .ok r) :
    ∃ r, (FieldType.record type).read .data (.obj ms') = .ok r := by
  rw [read_record_readable] at read ⊢
  intro g there
  by_cases called : g.outerName = f.outerName ∨ g.name = f.outerName
  · obtain rfl := only g there called
    obtain ⟨w, own⟩ := own
    exact ⟨w, by rw [FieldSpec.ReadsAs, FieldSpec.valueIn_of_lookup found]; exact own⟩
  · obtain ⟨outer, inner⟩ := not_or.mp called
    obtain ⟨w, own⟩ := read g there
    refine ⟨w, ?_⟩
    rwa [FieldSpec.ReadsAs, FieldSpec.valueIn, others _ outer, others _ inner]

end PortableSearch.Shape
