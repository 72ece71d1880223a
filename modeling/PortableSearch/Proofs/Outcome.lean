import Mathlib.Data.List.Forall2

/-! Outcomes of computations that give a result or a fault. A computation over a list gives the
results of all members, or the fault of the first member that has one. -/
namespace PortableSearch
universe u v
variable {ε α β : Type u}

theorem bind_ok {x : Except ε α} {f : α → Except ε β} {b : β} :
    (x >>= f) = .ok b ↔ ∃ a, x = .ok a ∧ f a = .ok b := by
  cases x with
  | error e => simp [bind, Except.bind]
  | ok a => simp [bind, Except.bind]

theorem map_ok {x : Except ε α} {f : α → β} {b : β} :
    x.map f = .ok b ↔ ∃ a, x = .ok a ∧ f a = b := by
  cases x <;> simp [Except.map]

theorem mapError_ok {ε' : Type u} {α : Type v} {x : Except ε α} {f : ε → ε'} {a : α} :
    x.mapError f = .ok a ↔ x = .ok a := by
  cases x <;> simp [Except.mapError]

/-- A computation over a list succeeds where it succeeds on every member. -/
theorem mapM_ok_iff {α : Type v} {f : α → Except ε β} {as : List α} {bs : List β} :
    as.mapM f = .ok bs ↔ List.Forall₂ (fun a b => f a = .ok b) as bs := by
  induction as generalizing bs with
  | nil => cases bs <;> simp [pure, Except.pure]
  | cons a as ih =>
    rw [List.mapM_cons, bind_ok, List.forall₂_cons_left_iff]
    simp only [bind_ok, ih, pure, Except.pure, Except.ok.injEq]
    constructor
    · rintro ⟨b, first, rest, others, rfl⟩
      exact ⟨b, rest, first, others, rfl⟩
    · rintro ⟨b, rest, first, others, rfl⟩
      exact ⟨b, first, rest, others, rfl⟩

theorem exists_forall₂ {α : Type u} {β : Type v} {R : α → β → Prop} {as : List α} :
    (∃ bs, List.Forall₂ R as bs) ↔ ∀ a ∈ as, ∃ b, R a b := by
  induction as with
  | nil => exact ⟨fun _ => List.forall_mem_nil _, fun _ => ⟨[], .nil⟩⟩
  | cons a as ih =>
    rw [List.forall_mem_cons, ← ih]
    constructor
    · rintro ⟨bs, each⟩
      obtain ⟨b, rest, first, others, -⟩ := List.forall₂_cons_left_iff.mp each
      exact ⟨⟨b, first⟩, rest, others⟩
    · rintro ⟨⟨b, first⟩, rest, others⟩
      exact ⟨b :: rest, .cons first others⟩

theorem forall₂_getElem? {α : Type u} {β : Type v} {R : α → β → Prop} {as : List α} {bs : List β}
    (each : List.Forall₂ R as bs) {i : Nat} {a : α} (found : as[i]? = some a) :
    ∃ b, R a b ∧ bs[i]? = some b := by
  induction each generalizing i with
  | nil => cases found
  | cons first _ ih =>
    cases i with
    | zero => exact ⟨_, Option.some.inj found ▸ first, rfl⟩
    | succ i => exact ih found

theorem forall₂_mem_right {α : Type u} {β : Type v} {R : α → β → Prop} {as : List α}
    {bs : List β} (each : List.Forall₂ R as bs) {b : β} (inside : b ∈ bs) : ∃ a ∈ as, R a b := by
  induction each with
  | nil => cases inside
  | cons first _ ih =>
    rcases List.mem_cons.mp inside with rfl | later
    · exact ⟨_, List.mem_cons_self, first⟩
    · obtain ⟨a, there, own⟩ := ih later
      exact ⟨a, List.mem_cons_of_mem _ there, own⟩

theorem forall₂_set {α : Type u} {β : Type v} {R : α → β → Prop} {as : List α} {bs : List β}
    (each : List.Forall₂ R as bs) {i : Nat} {b : β} (own : ∀ a, as[i]? = some a → R a b) :
    List.Forall₂ R as (bs.set i b) := by
  induction each generalizing i with
  | nil => exact .nil
  | cons first rest ih =>
    cases i with
    | zero => exact .cons (own _ rfl) rest
    | succ i => exact .cons first (ih own)

/-- Where a computation over a list succeeds, each result is that of the member at its place. -/
theorem mapM_ok_getElem? {α : Type v} {f : α → Except ε β} {as : List α} {bs : List β}
    (computed : as.mapM f = .ok bs) {i : Nat} {a : α} (found : as[i]? = some a) :
    ∃ b, f a = .ok b ∧ bs[i]? = some b :=
  forall₂_getElem? (mapM_ok_iff.mp computed) found

theorem mapM_ok_mem {α : Type v} {f : α → Except ε β} {as : List α} {bs : List β}
    (computed : as.mapM f = .ok bs) {a : α} (inside : a ∈ as) : ∃ b ∈ bs, f a = .ok b := by
  obtain ⟨i, found⟩ := List.getElem?_of_mem inside
  obtain ⟨b, own, there⟩ := mapM_ok_getElem? computed found
  exact ⟨b, List.mem_of_getElem? there, own⟩

theorem mapM_congr {α : Type v} {f g : α → Except ε β} {as : List α}
    (same : ∀ a ∈ as, f a = g a) : as.mapM f = as.mapM g := by
  induction as with
  | nil => rfl
  | cons a as ih =>
    rw [List.forall_mem_cons] at same
    rw [List.mapM_cons, List.mapM_cons, same.1, ih same.2]

theorem mapM_ok_of_mem {α : Type v} {f : α → Except ε β} {as : List α} {bs : List β}
    (computed : as.mapM f = .ok bs) {b : β} (inside : b ∈ bs) : ∃ a ∈ as, f a = .ok b :=
  forall₂_mem_right (mapM_ok_iff.mp computed) inside

/-- The fault of a computation that fails. -/
def faultOf {α : Type v} : Except ε α → Option ε
  | .error e => some e
  | .ok _ => none

theorem faultOf_eq_some {α : Type v} {x : Except ε α} {e : ε} :
    faultOf x = some e ↔ x = .error e := by
  cases x <;> simp [faultOf]

theorem faultOf_eq_none {α : Type v} {x : Except ε α} : faultOf x = none ↔ ∃ a, x = .ok a := by
  cases x <;> simp [faultOf]

@[simp] theorem faultOf_map {x : Except ε α} {f : α → β} : faultOf (x.map f) = faultOf x := by
  cases x <;> rfl

@[simp] theorem faultOf_mapError {ε' : Type u} {α : Type v} {x : Except ε α} {f : ε → ε'} :
    faultOf (x.mapError f) = (faultOf x).map f := by
  cases x <;> rfl

/-- The fault of a computation in two steps, where that of the second depends on no result. -/
theorem faultOf_bind {x : Except ε α} {f : α → Except ε β} {later : Option ε}
    (same : ∀ a, x = .ok a → faultOf (f a) = later) :
    faultOf (x >>= f) = (faultOf x).or later := by
  cases x with
  | error e => rfl
  | ok a => exact same a rfl

theorem faultOf_mapM {α : Type v} (f : α → Except ε β) (as : List α) :
    faultOf (as.mapM f) = as.findSome? fun a => faultOf (f a) := by
  induction as with
  | nil => rfl
  | cons a as ih =>
    have rest : ∀ b, faultOf (as.mapM f >>= fun bs => pure (b :: bs)) = faultOf (as.mapM f) := by
      intro b
      cases as.mapM f <;> rfl
    rw [List.mapM_cons, faultOf_bind fun b _ => rest b, ih, List.findSome?_cons]
    cases faultOf (f a) <;> rfl

theorem findSome?_flatMap {α : Type u} {β γ : Type v} (f : β → Option γ) (g : α → List β)
    (as : List α) : (as.flatMap g).findSome? f = as.findSome? fun a => (g a).findSome? f := by
  induction as with
  | nil => rfl
  | cons a as ih =>
    rw [List.flatMap_cons, List.findSome?_append, ih, List.findSome?_cons]
    cases (g a).findSome? f <;> rfl

/-! The first member that fails -/

/-- What the first member of a list fails with that fails at all. -/
inductive FirstIn {α : Type u} {β : Type v} (fails : α → β → Prop) : List α → β → Prop
  | here {a : α} {as : List α} {b : β} : fails a b → FirstIn fails (a :: as) b
  | later {a : α} {as : List α} {b : β} :
    (∀ c, ¬ fails a c) → FirstIn fails as b → FirstIn fails (a :: as) b

/-- Searching a list with a function finds what the first member fails with. -/
theorem firstIn_iff {α : Type u} {β : Type v} {fails : α → β → Prop} {f : α → Option β}
    (same : ∀ a b, f a = some b ↔ fails a b) {as : List α} {b : β} :
    FirstIn fails as b ↔ as.findSome? f = some b := by
  induction as with
  | nil => exact ⟨nofun, nofun⟩
  | cons a as ih =>
    rw [List.findSome?_cons]
    cases found : f a with
    | some c =>
      have here := (same a c).mp found
      constructor
      · rintro (first | ⟨never, -⟩)
        · rw [← (same a b).mpr first, found]
        · exact absurd here (never c)
      · intro equal
        exact .here (Option.some.inj equal ▸ here)
    | none =>
      have never : ∀ c, ¬ fails a c := fun c first => by
        rw [(same a c).mpr first] at found
        cases found
      rw [← ih]
      constructor
      · rintro (first | ⟨-, rest⟩)
        · exact absurd first (never b)
        · exact rest
      · exact .later never

end PortableSearch
