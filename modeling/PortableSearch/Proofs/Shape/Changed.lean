import PortableSearch.Proofs.Shape.Congruence

/-! Reading two values that differ in one part. Where the part is read alike in both, up to a relation
of its results, so is the whole: both have the same faults, or else their results differ in that
part alone, and there by the relation. -/
namespace PortableSearch.Shape
variable {α β : Type}

/-- Two checks have the same faults, or related results. -/
inductive Checked.Related (R : α → β → Prop) : Checked α → Checked β → Prop
  | results {a : α} {b : β} : R a b → Related R (.ok a) (.ok b)
  | faults (fs : List Fault) : Related R (.error fs) (.error fs)

/-- Two lists differ in one place, by a relation. -/
def ChangedAt (i : Nat) (R : α → α → Prop) (as bs : List α) : Prop :=
  ∃ a b, as[i]? = some a ∧ R a b ∧ bs = as.set i b

/-- Two lists of values differ in one item. -/
def ItemChanged (i : Nat) (R : Value → Value → Prop) (v w : Value) : Prop :=
  ∃ vs ws, v = .list vs ∧ w = .list ws ∧ ChangedAt i R vs ws

/-- Two objects differ in the value of one member. -/
def MemberChanged (i : Nat) (R : Value → Value → Prop) (v w : Value) : Prop :=
  ∃ ms ns, v = .obj ms ∧ w = .obj ns ∧ ChangedAt i (fun m n => n.1 = m.1 ∧ R m.2 n.2) ms ns

/-- Two lists of fields differ in the field of one name. -/
structure FieldsChanged (name : String) (R : Value → Value → Prop) (fields fields' : Members) :
    Prop where
  own : R (fields.get name) (fields'.get name)
  others : ∀ other, other ≠ name → fields'.get other = fields.get other

/-- Two records differ in the field of one name. -/
def RecordChanged (name : String) (R : Value → Value → Prop) (r s : Value) : Prop :=
  ∃ kinds given fields fields' others, r = .record kinds given fields others ∧
    s = .record kinds given fields' others ∧ FieldsChanged name R fields fields'

namespace Checked
variable {γ δ : Type} {R : α → β → Prop} {S : γ → δ → Prop} {c : Checked α} {d : Checked β}

theorem Related.same {R : α → α → Prop} (each : ∀ a, c = .ok a → R a a) : Related R c c := by
  cases c with
  | ok a => exact .results (each a rfl)
  | error fs => exact .faults fs

theorem Related.map {f : α → γ} {g : β → δ} (related : Related R c d)
    (image : ∀ a b, R a b → S (f a) (g b)) : Related S (c.map f) (d.map g) := by
  cases related with
  | results own => exact .results (image _ _ own)
  | faults fs => exact .faults fs

theorem Related.within (step : Step) (related : Related R c d) :
    Related R (within step c) (within step d) := by
  cases related with
  | results own => exact .results own
  | faults fs => exact .faults _

theorem Related.both {x : Checked γ} {y : Checked δ} (first : Related R c d)
    (second : Related S x y) :
    Related (fun p q => R p.1 q.1 ∧ S p.2 q.2) (both c x) (both d y) := by
  cases first with
  | results own =>
    cases second with
    | results own' => exact .results ⟨own, own'⟩
    | faults fs => exact .faults _
  | faults fs => cases second <;> exact .faults _

theorem Related.gather_set {R : α → α → Prop} {cs : List (Checked α)} {i : Nat} {c d : Checked α}
    (found : cs[i]? = some c) (related : Related R c d) :
    Related (ChangedAt i R) (gather cs) (gather (cs.set i d)) := by
  induction cs generalizing i with
  | nil => cases found
  | cons first cs ih =>
    cases i with
    | zero =>
      obtain rfl := Option.some.inj found
      have rest : Related Eq (gather cs) (gather cs) := .same fun _ _ => rfl
      refine (related.both rest).map ?_
      rintro ⟨a, as⟩ ⟨b, bs⟩ ⟨own, rfl⟩
      exact ⟨a, b, rfl, own, rfl⟩
    | succ i =>
      have here : Related Eq first first := .same fun _ _ => rfl
      refine (here.both (ih found)).map ?_
      rintro ⟨a, as⟩ ⟨_, bs⟩ ⟨rfl, x, y, there, own, rfl⟩
      exact ⟨x, y, there, own, rfl⟩

end Checked

open Checked (Related)

variable {R : Value → Value → Prop} {t : FieldType} {v v' : Value} {i : Nat}

theorem read_list_set {vs : List Value} (found : vs[i]? = some v)
    (related : Related R (t.read .data v) (t.read .data v')) :
    Related (ItemChanged i R) ((FieldType.list false t).read .data (.list vs))
      ((FieldType.list false t).read .data (.list (vs.set i v'))) := by
  have items : Related (ChangedAt i R) (Checked.gatherIndexed (vs.map fun v => t.read .data v))
      (Checked.gatherIndexed ((vs.set i v').map fun v => t.read .data v)) := by
    rw [Checked.gatherIndexed, Checked.gatherIndexed, List.map_set, List.mapIdx_set]
    refine .gather_set ?_ (related.within (.index i))
    rw [List.getElem?_mapIdx, List.getElem?_map, found]
    rfl
  simp only [FieldType.read, Bool.false_and, Bool.false_eq_true, if_false]
  exact items.map fun ws ws' changed => ⟨ws, ws', rfl, rfl, changed⟩

theorem read_dict_set {ms : Members} {name : String} (found : ms[i]? = some (name, v))
    (related : Related R (t.read .data v) (t.read .data v')) :
    Related (MemberChanged i R) ((FieldType.dict t).read .data (.obj ms))
      ((FieldType.dict t).read .data (.obj (ms.set i (name, v')))) := by
  simp only [FieldType.read, Source.lastOfEach]
  refine Related.map (R := ChangedAt i fun m n => n.1 = m.1 ∧ R m.2 n.2) ?_
    fun out out' changed => ⟨out, out', rfl, rfl, changed⟩
  rw [Checked.gatherNamed, Checked.gatherNamed, List.map_set, List.map_set]
  refine .gather_set (c := (Checked.within (.name name) (t.read .data v)).map fun w => (name, w))
    ?_ ?_
  · rw [List.getElem?_map, List.getElem?_map, found]
    rfl
  · exact (related.within (.name name)).map fun w w' own => ⟨rfl, own⟩

/-! Records -/

variable {type : RecordType FieldType} {f : FieldSpec FieldType} {ms ms' : Members} {n : String}
  {fields : List (FieldSpec FieldType)}

theorem nameIn_outer (found : ms.lookup f.outerName = some v) : f.nameIn ms = some f.outerName := by
  have there : f.outerName ∈ ms.names := by
    rw [Members.mem_names_iff, found]
    rfl
  rw [FieldSpec.nameIn, if_pos (List.contains_iff_mem.mpr there)]

theorem nameIn_some {τ : Type} {f : FieldSpec τ} (found : f.nameIn ms = some n) :
    n ∈ ms.names ∧ (f.outerName = n ∨ f.outerName ∉ ms.names ∧ f.name = n) := by
  rw [FieldSpec.nameIn] at found
  split at found
  next outer =>
    cases found
    exact ⟨List.contains_iff_mem.mp outer, .inl rfl⟩
  next outer =>
    split at found
    next own =>
      cases found
      exact ⟨List.contains_iff_mem.mp own, .inr ⟨fun there => outer (by simpa using there), rfl⟩⟩
    next => cases found

/-- A field is read from the member that it is found under. -/
theorem readField_found (found : f.nameIn ms = some n) (there : ms.lookup n = some v) :
    readField .data f ms =
      (Checked.within (.name n) (f.type.read .data v)).map fun w => (f.name, w) := by
  rw [readField_eq]
  rcases (nameIn_some found).2 with rfl | ⟨absent, rfl⟩
  · rw [there]
    rfl
  · have none : ms.lookup f.outerName = none := by
      rwa [← Option.not_isSome_iff_eq_none, ← Members.mem_names_iff]
    rw [there, none]
    rfl

/-- By induction on the fields, of which one is the one that differs. -/
theorem readFields_changed (distinct : (fields.map FieldSpec.name).Nodup) (inside : f ∈ fields)
    (others : ∀ g ∈ fields, g ≠ f → readField .data g ms = readField .data g ms')
    (own : Related (fun p q => p.1 = f.name ∧ q.1 = f.name ∧ R p.2 q.2) (readField .data f ms)
      (readField .data f ms')) :
    Related (FieldsChanged f.name R) (readFields .data fields ms)
      (readFields .data fields ms') := by
  induction fields with
  | nil => cases inside
  | cons g fields ih =>
    obtain ⟨fresh, distinct⟩ := List.nodup_cons.mp distinct
    rw [readFields, readFields]
    by_cases here : g = f
    · subst here
      have rest : readFields .data fields ms = readFields .data fields ms' := by
        refine readFields_congr fun h there => others h (List.mem_cons_of_mem _ there) ?_
        rintro rfl
        exact fresh (List.mem_map_of_mem there)
      rw [rest]
      refine (own.both (.same (R := Eq) fun _ _ => rfl)).map ?_
      rintro ⟨⟨_, w⟩, out⟩ ⟨⟨_, w'⟩, _⟩ ⟨⟨rfl, rfl, changed⟩, rfl⟩
      constructor
      · rw [Members.get_cons, Members.get_cons, if_pos rfl, if_pos rfl]
        exact changed
      · intro other different
        rw [Members.get_cons, Members.get_cons, if_neg different, if_neg different]
    · have later : f ∈ fields := (List.mem_cons.mp inside).resolve_left fun same => here same.symm
      have first : readField .data g ms = readField .data g ms' :=
        others g List.mem_cons_self here
      have named : Related (fun p q => p.1 = g.name ∧ q = p) (readField .data g ms)
          (readField .data g ms') := by
        rw [first]
        exact .same fun p read => ⟨(readField_ok.mp read).1, rfl⟩
      have rest := ih distinct later fun h there => others h (List.mem_cons_of_mem _ there)
      refine (named.both rest).map ?_
      rintro ⟨⟨_, w⟩, out⟩ ⟨_, out'⟩ ⟨⟨rfl, rfl⟩, changed⟩
      have different : f.name ≠ g.name := fun same => fresh (same ▸ List.mem_map_of_mem later)
      constructor
      · rw [Members.get_cons, Members.get_cons, if_neg different, if_neg different]
        exact changed.own
      · intro other apart
        rw [Members.get_cons, Members.get_cons, changed.others other apart]

/-- A record is read with another value in the member that only one of its fields is found under. -/
theorem read_record_put (distinct : (type.fields.map FieldSpec.name).Nodup)
    (inside : f ∈ type.fields) (found : f.nameIn ms = some n) (there : ms.lookup n = some v)
    (only : ∀ g ∈ type.fields, g.outerName = n ∨ g.name = n → g = f)
    (related : Related R (f.type.read .data v) (f.type.read .data v')) :
    Related (RecordChanged f.name R) ((FieldType.record type).read .data (.obj ms))
      ((FieldType.record type).read .data (.obj (ms.put n v'))) := by
  obtain ⟨named, called⟩ := nameIn_some found
  have names : (ms.put n v').names = ms.names := Members.names_put_of_mem v' named
  have found' (g : FieldSpec FieldType) : g.nameIn (ms.put n v') = g.nameIn ms := by
    rw [FieldSpec.nameIn, FieldSpec.nameIn, names]
  have fields : Related (FieldsChanged f.name R) (readFields .data type.fields ms)
      (readFields .data type.fields (ms.put n v')) := by
    refine readFields_changed distinct inside (fun g there different => ?_) ?_
    · have apart : g.outerName ≠ n ∧ g.name ≠ n :=
        not_or.mp fun called => different (only g there called)
      apply readField_congr
      · rw [Members.lookup_put_of_ne _ _ apart.1]
      · rw [Members.lookup_put_of_ne _ _ apart.2]
    · rw [readField_found found there,
        readField_found ((found' f).trans found) (Members.lookup_put_self ms n v')]
      exact (related.within (.name n)).map fun w w' own => ⟨rfl, rfl, own⟩
  have given : givenNames type.fields (ms.put n v') = givenNames type.fields ms := by
    simp only [givenNames, found']
  have others : unusedMembers type.fields (ms.put n v') = unusedMembers type.fields ms := by
    have used : decide (LeftOver type.fields ms n) = false := by
      rw [decide_eq_false_iff_not]
      intro left
      obtain ⟨outer, own⟩ := left f inside
      rcases called with same | ⟨absent, same⟩
      · exact outer same
      · exact absent (own same)
    rw [unusedMembers_eq, unusedMembers_eq]
    simp only [LeftOver, names]
    exact Members.filter_put (p := fun n => decide (LeftOver type.fields ms n)) used ms v'
  obtain ⟨kind, specs, keepsOthers⟩ := type
  simp only [FieldType.read, Source.lastOfEach, readRecordFields]
  refine fields.map fun out out' changed => ?_
  simp only [buildRecord, given, others]
  exact ⟨_, _, out, out', _, rfl, rfl, changed⟩

end PortableSearch.Shape
