import PortableSearch.Proofs.Value.Plain

/-! Values in which each name of an object stands once. Making it so has no effect a second time, and
it makes no difference whether the members are changed before or after. -/
namespace PortableSearch

namespace Members
variable {R : Value → Value → Prop} {ms out : Members}

theorem forall₂_put_named {v w : Value}
    (each : List.Forall₂ (fun m p => p.1 = m.1 ∧ R m.2 p.2) ms out) (name : String) (own : R v w) :
    List.Forall₂ (fun m p => p.1 = m.1 ∧ R m.2 p.2) (ms.put name v) (out.put name w) := by
  induction each with
  | nil => exact .cons ⟨rfl, own⟩ .nil
  | cons first rest ih =>
    rw [put, put, first.1]
    split
    · exact .cons ⟨rfl, own⟩ rest
    · exact .cons first ih

theorem forall₂_ofList (each : List.Forall₂ (fun m p => p.1 = m.1 ∧ R m.2 p.2) ms out) :
    List.Forall₂ (fun m p => p.1 = m.1 ∧ R m.2 p.2) (ofList ms) (ofList out) := by
  suffices ∀ {ms' out' : Members}, List.Forall₂ (fun m p => p.1 = m.1 ∧ R m.2 p.2) ms' out' →
      List.Forall₂ (fun m p => p.1 = m.1 ∧ R m.2 p.2) (ms'.update ms) (out'.update out) from
    this .nil
  induction each with
  | nil => exact fun before => before
  | cons first _ ih =>
    intro ms' out' before
    rw [update_cons, update_cons, first.1]
    exact ih (forall₂_put_named before _ first.2)

/-- Members with another value each. -/
def mapValues (g : Value → Value) (ms : Members) : Members := ms.map fun m => (m.1, g m.2)

theorem mapValues_cons (g : Value → Value) (m : String × Value) (ms : Members) :
    mapValues g (m :: ms) = (m.1, g m.2) :: mapValues g ms := rfl

theorem mapValues_iff {g : Value → Value} :
    List.Forall₂ (fun m p => p.1 = m.1 ∧ p.2 = g m.2) ms out ↔ out = mapValues g ms := by
  rw [mapValues, eq_comm, ← List.forall₂_eq_eq_eq, List.forall₂_map_left_iff]
  simp only [Prod.ext_iff, eq_comm]

theorem ofList_mapValues (g : Value → Value) (ms : Members) :
    ofList (mapValues g ms) = mapValues g (ofList ms) := by
  have each : List.Forall₂ (fun m p => p.1 = m.1 ∧ p.2 = g m.2) ms (mapValues g ms) :=
    mapValues_iff.mpr rfl
  exact mapValues_iff.mp (forall₂_ofList (R := fun v w => w = g v) each)

@[simp] theorem names_mapValues (g : Value → Value) (ms : Members) :
    (mapValues g ms).names = ms.names := by
  simp [mapValues, names]

theorem lookup_mapValues (g : Value → Value) (ms : Members) (name : String) :
    (mapValues g ms).lookup name = (ms.lookup name).map g := by
  induction ms with
  | nil => rfl
  | cons m ms ih =>
    rw [mapValues, List.map_cons, List.lookup_cons, List.lookup_cons]
    cases name == m.1 with
    | true => rfl
    | false => exact ih

theorem ofList_ofList (ms : Members) : ofList (ofList ms) = ofList ms :=
  ofList_of_nodup (nodup_ofList ms)

end Members

namespace Value

theorem distinct_list (vs : List Value) : (list vs).distinct = list (vs.map distinct) := by
  rw [distinct]
  induction vs with
  | nil => rfl
  | cons v vs ih => rw [distinctItems, List.map_cons, list.inj ih]

theorem distinct_obj (ms : Members) :
    (obj ms).distinct = obj (Members.ofList (Members.mapValues distinct ms)) := by
  have each : distinctMembers ms = Members.mapValues distinct ms := by
    induction ms with
    | nil => rfl
    | cons m ms ih => rw [distinctMembers, ih, Members.mapValues_cons]
  rw [distinct, each]

mutual

/-- By recursion on the value. -/
theorem distinct_distinct : ∀ v : Value, v.distinct.distinct = v.distinct
  | list vs => by rw [distinct_list, distinct_list, distinct_items vs]
  | obj ms => by
    rw [distinct_obj, distinct_obj, ← Members.ofList_mapValues, distinct_members ms,
      Members.ofList_ofList]
  | null | bool _ | int _ | float _ | str _ | bytes _ | moment _ | pair .. | choice .. | record .. =>
    rfl

theorem distinct_items : ∀ vs : List Value, (vs.map distinct).map distinct = vs.map distinct
  | [] => rfl
  | v :: vs => by rw [List.map_cons, List.map_cons, distinct_distinct v, distinct_items vs]

theorem distinct_members : ∀ ms : List (String × Value),
    Members.mapValues distinct (Members.mapValues distinct ms) =
      Members.mapValues distinct ms
  | [] => rfl
  | (_, v) :: ms => by
    rw [Members.mapValues_cons, Members.mapValues_cons, distinct_distinct v, distinct_members ms]

end

end Value

end PortableSearch
