import PortableSearch.Proofs.Value.Partwise

/-! Values in which no null stands, however deep. -/
namespace PortableSearch

mutual

/-- No null stands in the value, at any depth. -/
def Value.isNullFree : Value → Bool
  | .null => false
  | .list vs => itemsNullFree vs
  | .obj ms => membersNullFree ms
  | .pair _ v => isNullFree v
  | .record _ _ fields others => membersNullFree fields && membersNullFree others
  | _ => true

def Value.itemsNullFree : List Value → Bool
  | [] => true
  | v :: vs => isNullFree v && itemsNullFree vs

def Value.membersNullFree : List (String × Value) → Bool
  | [] => true
  | (_, v) :: ms => isNullFree v && membersNullFree ms

end

/-- No null stands in the members. -/
abbrev Members.NullFree (ms : Members) : Prop := ∀ m ∈ ms, m.2.isNullFree = true

namespace Value

theorem isNullFree_list {vs : List Value} :
    (Value.list vs).isNullFree = true ↔ ∀ v ∈ vs, v.isNullFree = true := by
  rw [isNullFree]
  induction vs with
  | nil => simp [itemsNullFree]
  | cons v vs ih => simp [itemsNullFree, ih]

theorem membersNullFree_iff {ms : Members} : membersNullFree ms = true ↔ ms.NullFree := by
  induction ms with
  | nil => simp [membersNullFree]
  | cons m ms ih =>
    obtain ⟨name, v⟩ := m
    rw [membersNullFree, Bool.and_eq_true, ih, Members.NullFree, Members.NullFree,
      List.forall_mem_cons]

theorem isNullFree_obj {ms : Members} : (Value.obj ms).isNullFree = true ↔ ms.NullFree := by
  rw [isNullFree, membersNullFree_iff]

theorem isNullFree_partwise : Partwise fun v => v.isNullFree = true where
  int _ := rfl
  float _ := rfl
  str _ := rfl
  list := isNullFree_list
  obj := isNullFree_obj
  pair free := by simpa [isNullFree] using free
  record free := by
    rw [isNullFree, Bool.and_eq_true, membersNullFree_iff, membersNullFree_iff] at free
    intro m inside
    rw [isNullFree]
    exact List.forall_mem_append.mpr free m inside

end Value

end PortableSearch
