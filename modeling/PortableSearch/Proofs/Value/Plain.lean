import PortableSearch.Proofs.Members

/-! Plain values: those that every reader of JSON takes for the same. Numbers are integers of 64
bits, and no name is repeated in an object. A reader that takes longer integers has more values of
this kind. -/
namespace PortableSearch

/-- Setting members of other names appends them. -/
theorem Members.update_of_nodup {ms more : Members} (distinct : (ms ++ more).names.Nodup) :
    ms.update more = ms ++ more := by
  induction more generalizing ms with
  | nil => exact (List.append_nil ms).symm
  | cons m more ih =>
    have absent : m.1 ∉ ms.names := by
      intro there
      rw [names_append, names_cons] at distinct
      exact (List.nodup_append.mp distinct).2.2 _ there _ List.mem_cons_self rfl
    have appended : ms ++ m :: more = (ms ++ [m]) ++ more := by simp
    rw [update_cons, put_of_not_mem m.2 absent, appended]
    rw [appended] at distinct
    exact ih distinct

theorem Members.ofList_of_nodup {ms : Members} (distinct : ms.names.Nodup) : ofList ms = ms :=
  update_of_nodup distinct

namespace Value

/-- An integer that 64 bits hold, with or without a sign. -/
def FitsWord (n : Int) : Prop := -Int.pow 2 63 ≤ n ∧ n < Int.pow 2 64

theorem natAbs_of_fitsWord {n : Int} (fits : FitsWord n) : n.natAbs < Nat.pow 2 64 := by
  have least : Int.pow 2 63 = 9223372036854775808 := by decide
  have beyond : Int.pow 2 64 = 18446744073709551616 := by decide
  have bound : Nat.pow 2 64 = 18446744073709551616 := by decide
  rw [FitsWord, least, beyond] at fits
  omega

mutual

/-- The value has only nulls, flags, texts, short integers, lists and objects of distinct names. -/
def IsPlain : Value → Prop
  | null | bool _ | str _ => True
  | int n => FitsWord n
  | list vs => ItemsPlain vs
  | obj ms => (Members.names ms).Nodup ∧ MembersPlain ms
  | _ => False

def ItemsPlain : List Value → Prop
  | [] => True
  | v :: vs => IsPlain v ∧ ItemsPlain vs

def MembersPlain : List (String × Value) → Prop
  | [] => True
  | (_, v) :: ms => IsPlain v ∧ MembersPlain ms

end

mutual

/-- The value has only nulls, flags, texts, integers that are allowed, lists and objects of distinct
names. -/
def IsTree (allowed : Int → Prop) : Value → Prop
  | null | bool _ | str _ => True
  | int n => allowed n
  | list vs => ItemsTrees allowed vs
  | obj ms => (Members.names ms).Nodup ∧ MembersTrees allowed ms
  | _ => False

def ItemsTrees (allowed : Int → Prop) : List Value → Prop
  | [] => True
  | v :: vs => IsTree allowed v ∧ ItemsTrees allowed vs

def MembersTrees (allowed : Int → Prop) : List (String × Value) → Prop
  | [] => True
  | (_, v) :: ms => IsTree allowed v ∧ MembersTrees allowed ms

end

mutual

/-- A plain value is a tree wherever all short integers are allowed. -/
theorem isTree_of_plain {allowed : Int → Prop} (short : ∀ n, FitsWord n → allowed n) :
    ∀ {v : Value}, v.IsPlain → v.IsTree allowed
  | null, _ | bool _, _ | str _, _ => trivial
  | int n, fits => short n fits
  | list _, plain => by
    rw [IsPlain] at plain
    rw [IsTree]
    exact itemsTrees_of_plain short plain
  | obj _, plain => by
    obtain ⟨nodup, members⟩ := plain
    exact ⟨nodup, membersTrees_of_plain short members⟩

theorem itemsTrees_of_plain {allowed : Int → Prop} (short : ∀ n, FitsWord n → allowed n) :
    ∀ {vs : List Value}, ItemsPlain vs → ItemsTrees allowed vs
  | [], _ => trivial
  | _ :: _, ⟨first, rest⟩ => ⟨isTree_of_plain short first, itemsTrees_of_plain short rest⟩

theorem membersTrees_of_plain {allowed : Int → Prop} (short : ∀ n, FitsWord n → allowed n) :
    ∀ {ms : List (String × Value)}, MembersPlain ms → MembersTrees allowed ms
  | [], _ => trivial
  | (_, _) :: _, ⟨first, rest⟩ => ⟨isTree_of_plain short first, membersTrees_of_plain short rest⟩

end

theorem itemsPlain_iff {vs : List Value} : ItemsPlain vs ↔ ∀ v ∈ vs, v.IsPlain := by
  induction vs with
  | nil => simp [ItemsPlain]
  | cons v vs ih => rw [ItemsPlain, ih, List.forall_mem_cons]

theorem membersPlain_iff {ms : Members} : MembersPlain ms ↔ ∀ m ∈ ms, m.2.IsPlain := by
  induction ms with
  | nil => simp [MembersPlain]
  | cons m ms ih =>
    obtain ⟨name, v⟩ := m
    rw [MembersPlain, ih, List.forall_mem_cons]

theorem isPlain_list {vs : List Value} : (list vs).IsPlain ↔ ∀ v ∈ vs, v.IsPlain := by
  rw [IsPlain, itemsPlain_iff]

theorem isPlain_obj {ms : Members} :
    (obj ms).IsPlain ↔ ms.names.Nodup ∧ ∀ m ∈ ms, m.2.IsPlain := by
  rw [IsPlain, membersPlain_iff]

mutual

/-- In a plain value every name stands once already. -/
theorem distinct_of_plain : ∀ {v : Value}, v.IsPlain → v.distinct = v
  | null, _ | bool _, _ | str _, _ | int _, _ => rfl
  | list _, plain => by
    rw [IsPlain] at plain
    rw [distinct, distinctItems_of_plain plain]
  | obj _, plain => by
    obtain ⟨nodup, members⟩ := plain
    rw [distinct, distinctMembers_of_plain members, Members.ofList_of_nodup nodup]

theorem distinctItems_of_plain : ∀ {vs : List Value}, ItemsPlain vs → distinctItems vs = vs
  | [], _ => rfl
  | _ :: _, plain => by
    obtain ⟨first, rest⟩ := plain
    rw [distinctItems, distinct_of_plain first, distinctItems_of_plain rest]

theorem distinctMembers_of_plain :
    ∀ {ms : List (String × Value)}, MembersPlain ms → distinctMembers ms = ms
  | [], _ => rfl
  | (_, _) :: _, plain => by
    obtain ⟨first, rest⟩ := plain
    rw [distinctMembers, distinct_of_plain first, distinctMembers_of_plain rest]

end

end Value

end PortableSearch
