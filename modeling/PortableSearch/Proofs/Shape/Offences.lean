import PortableSearch.Proofs.Shape.Congruence

/-! What is wrong with a value, part by part, and the faults that it is read with. A part is a place:
the positions of a field among the fields of its record, of an item in its list and of a member in
its object, one inside the other. A value is read with one fault for each place where something is
wrong, in the order of the places. -/
namespace PortableSearch.Shape

/-- A fault of a part, seen from the whole. -/
def Fault.under (step : Step) (f : Fault) : Fault := ⟨step :: f.path, f.defect⟩

/-- Why a type does not accept a value, whatever the parts of the value are. -/
def FieldType.refusal? : FieldType → Value → Option Defect
  | .any, _ | .instant, _ | .nullable _, _ => none
  | .text, v => faultOf (readText v)
  | .integer, v => faultOf (readInteger v)
  | .double, v => faultOf (readDouble .data v)
  | .flag, v => faultOf (readFlag .data v)
  | .moment, v => faultOf (readMoment v)
  | .choice options, v => faultOf (readChoice options v)
  | .instanceOnly, _ => some .notInstance
  | .list nonempty _, v =>
    match listed? v with
    | some vs => if nonempty && vs.isEmpty then some .tooShort else none
    | none => some .notList
  | .dict _, .obj _ => none
  | .dict _, _ => some .notObject
  | .record _, .obj _ => none
  | .record type, .record kinds .. => if kinds.contains type.kind then none else some .notRecord
  | .record _, _ => some .notRecord
  | .prepared preparation _, v => faultOf (preparation.apply v)

/-- The member that a field is found as: under its outer name, or else under its own. -/
def FieldSpec.foundIn {τ : Type} (f : FieldSpec τ) (ms : Members) : Option (String × Value) :=
  ((ms.lookup f.outerName).map fun v => (f.outerName, v)).or
    ((ms.lookup f.name).map fun v => (f.name, v))

/-- Something is wrong with a value at a place in it. -/
inductive Offends : FieldType → Value → List Nat → Fault → Prop
  | own {t : FieldType} {v : Value} {d : Defect} : t.refusal? v = some d → Offends t v [] ⟨[], d⟩
  | instant {v : Value} {fs : List Fault} {i : Nat} {fault : Fault} :
    readInstant v = .error fs → fs[i]? = some fault → Offends .instant v [i] fault
  | nullable {t : FieldType} {v : Value} {place : List Nat} {fault : Fault} :
    v ≠ .null → Offends t v place fault → Offends (.nullable t) v place fault
  | item {nonempty : Bool} {t : FieldType} {v u : Value} {vs : List Value} {i : Nat}
    {place : List Nat} {fault : Fault} : listed? v = some vs → vs[i]? = some u →
    Offends t u place fault → Offends (.list nonempty t) v (i :: place) (fault.under (.index i))
  | member {t : FieldType} {ms : Members} {name : String} {v : Value} {i : Nat} {place : List Nat}
    {fault : Fault} : ms[i]? = some (name, v) → Offends t v place fault →
    Offends (.dict t) (.obj ms) (i :: place) (fault.under (.name name))
  | missing {type : RecordType FieldType} {ms : Members} {f : FieldSpec FieldType} {i : Nat} :
    type.fields[i]? = some f → f.foundIn ms = none → f.fallback = none →
    Offends (.record type) (.obj ms) [i] ⟨[.name f.outerName], .missing⟩
  | field {type : RecordType FieldType} {ms : Members} {f : FieldSpec FieldType} {name : String}
    {v : Value} {i : Nat} {place : List Nat} {fault : Fault} : type.fields[i]? = some f →
    f.foundIn ms = some (name, v) → Offends f.type v place fault →
    Offends (.record type) (.obj ms) (i :: place) (fault.under (.name name))
  | prepared {preparation : Preparation} {t : FieldType} {v u : Value} {place : List Nat}
    {fault : Fault} : preparation.apply v = .ok u → Offends t u place fault →
    Offends (.prepared preparation t) v place fault

/-- A list of faults has one for each place where something is wrong, in the order of the places. -/
def Told (wrong : List Nat → Fault → Prop) (faults : List Fault) : Prop :=
  ∃ entries : List (List Nat × Fault), entries.map Prod.snd = faults ∧
    entries.Pairwise (fun a b => a.1 < b.1) ∧
    ∀ place fault, (place, fault) ∈ entries ↔ wrong place fault

/-- A check fails just where something is wrong, and tells all of it. -/
def Checked.Tells {α : Type} (wrong : List Nat → Fault → Prop) (c : Checked α) : Prop :=
  Told wrong c.faults ∧ ∀ faults, c = .error faults → faults ≠ []

variable {wrong wrong' : List Nat → Fault → Prop} {fs gs : List Fault}

namespace Told

theorem congr (told : Told wrong fs) (same : ∀ place fault, wrong place fault ↔ wrong' place fault) :
    Told wrong' fs := by
  obtain ⟨entries, faults, ordered, each⟩ := told
  exact ⟨entries, faults, ordered, fun place fault => (each place fault).trans (same place fault)⟩

theorem none (right : ∀ place fault, ¬ wrong place fault) : Told wrong [] :=
  ⟨[], rfl, .nil, fun place fault => by simp [right place fault]⟩

theorem single {fault : Fault} (only : ∀ place f, wrong place f ↔ place = [] ∧ f = fault) :
    Told wrong [fault] :=
  ⟨[([], fault)], rfl, List.pairwise_singleton _ _, fun place f => by simp [only]⟩

theorem within (step : Step) (told : Told wrong fs) :
    Told (fun place fault => ∃ f, wrong place f ∧ fault = f.under step)
      (fs.map (Fault.under step)) := by
  obtain ⟨entries, rfl, ordered, each⟩ := told
  refine ⟨entries.map fun e => (e.1, e.2.under step), ?_, ?_, ?_⟩
  · rw [List.map_map, List.map_map]
    rfl
  · rw [List.pairwise_map]
    exact ordered
  · intro place fault
    rw [List.mem_map]
    constructor
    · rintro ⟨⟨p, f⟩, inside, same⟩
      cases same
      exact ⟨f, (each _ _).mp inside, rfl⟩
    · rintro ⟨f, own, rfl⟩
      exact ⟨(place, f), (each _ _).mpr own, rfl⟩

/-- What is wrong with the first of some parts comes before what is wrong with those after it. -/
theorem append {k : Nat} (first : Told wrong fs) (rest : Told wrong' gs)
    (later : ∀ place fault, wrong' place fault → ∃ i p, place = i :: p ∧ k < i) :
    Told (fun place fault => (∃ p, place = k :: p ∧ wrong p fault) ∨ wrong' place fault)
      (fs ++ gs) := by
  obtain ⟨entries, rfl, ordered, each⟩ := first
  obtain ⟨entries', rfl, ordered', each'⟩ := rest
  refine ⟨(entries.map fun e => (k :: e.1, e.2)) ++ entries', ?_, ?_, ?_⟩
  · rw [List.map_append, List.map_map]
    rfl
  · rw [List.pairwise_append, List.pairwise_map]
    refine ⟨ordered.imp fun before => ?_, ordered', ?_⟩
    · exact List.cons_lt_cons_iff.mpr (.inr ⟨rfl, before⟩)
    · rintro _ inside ⟨place, fault⟩ inside'
      obtain ⟨e, -, rfl⟩ := List.mem_map.mp inside
      obtain ⟨i, p, rfl, less⟩ := later place fault ((each' _ _).mp inside')
      exact List.cons_lt_cons_iff.mpr (.inl less)
  · intro place fault
    rw [List.mem_append, List.mem_map, each']
    refine or_congr_left ⟨?_, ?_⟩
    · rintro ⟨⟨p, f⟩, inside, same⟩
      cases same
      exact ⟨p, rfl, (each _ _).mp inside⟩
    · rintro ⟨p, rfl, own⟩
      exact ⟨(p, fault), (each _ _).mpr own, rfl⟩

theorem mem_iff (told : Told wrong fs) (fault : Fault) :
    fault ∈ fs ↔ ∃ place, wrong place fault := by
  obtain ⟨entries, rfl, -, each⟩ := told
  rw [List.mem_map]
  constructor
  · rintro ⟨⟨place, f⟩, inside, rfl⟩
    exact ⟨place, (each _ _).mp inside⟩
  · rintro ⟨place, own⟩
    exact ⟨(place, fault), (each _ _).mpr own, rfl⟩

end Told

namespace Checked
variable {α β : Type} {c : Checked α}

theorem faults_both {x : Checked α} {y : Checked β} :
    (both x y).faults = x.faults ++ y.faults := by
  cases x <;> cases y <;> simp [both, faults]

theorem faults_map (f : α → β) : faults (c.map f) = c.faults := by
  cases c <;> rfl

theorem faults_within (step : Step) : (within step c).faults = c.faults.map (Fault.under step) := by
  cases c <;> rfl

theorem Tells.congr (tells : Tells wrong c)
    (same : ∀ place fault, wrong place fault ↔ wrong' place fault) : Tells wrong' c :=
  ⟨tells.1.congr same, tells.2⟩

theorem Tells.map (f : α → β) (tells : Tells wrong c) : Tells wrong (c.map f) := by
  refine ⟨by rw [faults_map]; exact tells.1, fun fs failed => ?_⟩
  cases c with
  | ok a => cases failed
  | error gs =>
    cases failed
    exact tells.2 fs rfl

theorem Tells.within (step : Step) (tells : Tells wrong c) :
    Tells (fun place fault => ∃ f, wrong place f ∧ fault = f.under step) (within step c) := by
  refine ⟨by rw [faults_within]; exact tells.1.within step, fun fs failed => ?_⟩
  cases c with
  | ok a => cases failed
  | error gs =>
    cases failed
    simpa using tells.2 gs rfl

theorem Tells.ok (a : α) (right : ∀ place fault, ¬ wrong place fault) : Tells wrong (.ok a) :=
  ⟨.none right, nofun⟩

theorem Tells.error {fault : Fault} (only : ∀ place f, wrong place f ↔ place = [] ∧ f = fault) :
    Tells wrong (.error [fault] : Checked α) :=
  ⟨.single only, fun fs failed => by cases failed; exact List.cons_ne_nil _ _⟩

theorem Tells.both {k : Nat} {d : Checked β} (first : Tells wrong c) (rest : Tells wrong' d)
    (later : ∀ place fault, wrong' place fault → ∃ i p, place = i :: p ∧ k < i) :
    Tells (fun place fault => (∃ p, place = k :: p ∧ wrong p fault) ∨ wrong' place fault)
      (both c d) := by
  refine ⟨by rw [faults_both]; exact first.1.append rest.1 later, fun fs failed => ?_⟩
  cases c with
  | error gs =>
    have some : gs ≠ [] := first.2 gs rfl
    cases d <;> cases failed <;> simp [faults, some]
  | ok a =>
    cases d with
    | error gs =>
      cases failed
      exact rest.2 gs rfl
    | ok b => cases failed

/-- By induction on the parts: what is wrong with the k-th part is at places that begin with k. -/
theorem Tells.gather {W : Nat → List Nat → Fault → Prop} {cs : List (Checked α)} (k : Nat)
    (each : ∀ i c, cs[i]? = some c → Tells (W (k + i)) c) :
    Tells (fun place fault => ∃ i p, place = (k + i) :: p ∧ i < cs.length ∧ W (k + i) p fault)
      (gather cs) := by
  induction cs generalizing k with
  | nil => exact .ok [] fun place fault => by simp
  | cons c cs ih =>
    have first : Tells (W k) c := each 0 c rfl
    have rest := ih (k + 1) fun i c found => by
      rw [Nat.add_assoc, Nat.add_comm 1]
      exact each (i + 1) c found
    have later : ∀ place fault, (∃ i p, place = (k + 1 + i) :: p ∧ i < cs.length ∧
        W (k + 1 + i) p fault) → ∃ i p, place = i :: p ∧ k < i := by
      rintro place fault ⟨i, p, rfl, -⟩
      exact ⟨_, p, rfl, by omega⟩
    rw [Checked.gather]
    refine ((first.both rest later).map _).congr fun place fault => ?_
    constructor
    · rintro (⟨p, rfl, own⟩ | ⟨i, p, rfl, inside, own⟩)
      · exact ⟨0, p, rfl, Nat.zero_lt_succ _, own⟩
      · rw [Nat.add_assoc, Nat.add_comm 1] at own ⊢
        exact ⟨i + 1, p, rfl, Nat.succ_lt_succ inside, own⟩
    · rintro ⟨i, p, rfl, inside, own⟩
      cases i with
      | zero => exact .inl ⟨p, rfl, own⟩
      | succ i =>
        rw [← Nat.add_assoc, Nat.add_right_comm] at own ⊢
        exact .inr ⟨i, p, rfl, Nat.lt_of_succ_lt_succ inside, own⟩

/-- Each part is told where it stands. -/
theorem Tells.parts {γ : Type} (as : List γ) {cs : List (Checked α)} {read : Nat → γ → Checked α}
    {wrong : Nat → γ → List Nat → Fault → Prop} (same : ∀ i, cs[i]? = as[i]?.map (read i))
    (each : ∀ i a, as[i]? = some a → Tells (wrong i a) (read i a)) :
    Tells (fun place fault => ∃ i p, place = i :: p ∧ ∃ a, as[i]? = some a ∧ wrong i a p fault)
      (Checked.gather cs) := by
  refine (Tells.gather (W := fun i p fault => ∃ a, as[i]? = some a ∧ wrong i a p fault) 0
    fun i c found => ?_).congr fun place fault => ?_
  · rw [same] at found
    obtain ⟨a, there, rfl⟩ := Option.map_eq_some_iff.mp found
    rw [Nat.zero_add]
    exact (each i a there).congr fun p fault => by simp [there]
  · simp only [Nat.zero_add]
    refine exists_congr fun i => exists_congr fun p => and_congr_right fun _ => ?_
    apply and_iff_right_of_imp
    rintro ⟨a, found, -⟩
    have there : cs[i]? = some (read i a) := by rw [same, found]; rfl
    exact (List.getElem?_eq_some_iff.mp there).1

end Checked

open Checked (Tells)

/-! Parts -/

variable {ms : Members} {f : FieldSpec FieldType} {v : Value} {place : List Nat} {fault : Fault}

theorem readField_eq_foundIn (f : FieldSpec FieldType) (ms : Members) :
    readField .data f ms = match f.foundIn ms with
      | some (name, v) =>
        (Checked.within (.name name) (f.type.read .data v)).map fun w => (f.name, w)
      | none => f.fallback.elim (.error [⟨[.name f.outerName], .missing⟩]) fun v =>
        .ok (f.name, v) := by
  rw [readField_eq, FieldSpec.foundIn]
  cases ms.lookup f.outerName with
  | some v => rfl
  | none => cases ms.lookup f.name <;> rfl

theorem readFields_eq_gather (fields : List (FieldSpec FieldType)) (ms : Members) :
    readFields .data fields ms = Checked.gather (fields.map fun f => readField .data f ms) := by
  induction fields with
  | nil => rfl
  | cons f fields ih => rw [readFields, ih, List.map_cons, Checked.gather]

/-- Something is wrong with a field: with what it is found as, or that it is not found. -/
def FieldSpec.OffendsIn (f : FieldSpec FieldType) (ms : Members) (place : List Nat)
    (fault : Fault) : Prop :=
  match f.foundIn ms with
  | some (name, v) => ∃ g, Offends f.type v place g ∧ fault = g.under (.name name)
  | none => f.fallback = none ∧ place = [] ∧ fault = ⟨[.name f.outerName], .missing⟩

theorem offends_list {nonempty : Bool} {t : FieldType} {vs : List Value}
    (listed : listed? v = some vs) (long : (nonempty && vs.isEmpty) = false) :
    Offends (.list nonempty t) v place fault ↔ ∃ i p, place = i :: p ∧
      ∃ u, vs[i]? = some u ∧ ∃ g, Offends t u p g ∧ fault = g.under (.index i) := by
  constructor
  · intro offends
    cases offends with
    | own refused => simp [FieldType.refusal?, listed, long] at refused
    | item listed' found inside =>
      cases listed'.symm.trans listed
      exact ⟨_, _, rfl, _, found, _, inside, rfl⟩
  · rintro ⟨i, p, rfl, u, found, g, inside, rfl⟩
    exact .item listed found inside

theorem offends_dict {t : FieldType} : Offends (.dict t) (.obj ms) place fault ↔
    ∃ i p, place = i :: p ∧ ∃ name u, ms[i]? = some (name, u) ∧
      ∃ g, Offends t u p g ∧ fault = g.under (.name name) := by
  constructor
  · intro offends
    cases offends with
    | own refused => cases refused
    | member found inside => exact ⟨_, _, rfl, _, _, found, _, inside, rfl⟩
  · rintro ⟨i, p, rfl, name, u, found, g, inside, rfl⟩
    exact .member found inside

theorem offends_record {type : RecordType FieldType} :
    Offends (.record type) (.obj ms) place fault ↔
      ∃ i p, place = i :: p ∧ ∃ f, type.fields[i]? = some f ∧ f.OffendsIn ms p fault := by
  constructor
  · intro offends
    cases offends with
    | own refused => cases refused
    | missing there absent needed =>
      refine ⟨_, _, rfl, _, there, ?_⟩
      rw [FieldSpec.OffendsIn, absent]
      exact ⟨needed, rfl, rfl⟩
    | field there found inside =>
      refine ⟨_, _, rfl, _, there, ?_⟩
      rw [FieldSpec.OffendsIn, found]
      exact ⟨_, inside, rfl⟩
  · rintro ⟨i, p, rfl, f, there, own⟩
    rw [FieldSpec.OffendsIn] at own
    split at own
    next name v found =>
      obtain ⟨g, inside, rfl⟩ := own
      exact .field there found inside
    next absent =>
      obtain ⟨needed, rfl, rfl⟩ := own
      exact .missing there absent needed

theorem offends_nullable {t : FieldType} (present : v ≠ .null) :
    Offends (.nullable t) v place fault ↔ Offends t v place fault := by
  refine ⟨fun offends => ?_, .nullable present⟩
  cases offends with
  | own refused => cases refused
  | nullable _ inside => exact inside

theorem offends_prepared {preparation : Preparation} {t : FieldType} {u : Value}
    (applied : preparation.apply v = .ok u) :
    Offends (.prepared preparation t) v place fault ↔ Offends t u place fault := by
  refine ⟨fun offends => ?_, .prepared applied⟩
  cases offends with
  | own refused =>
    rw [FieldType.refusal?, applied] at refused
    cases refused
  | prepared applied' inside =>
    cases applied.symm.trans applied'
    exact inside

/-! Whole values -/

/-- A value that can have no more than one thing wrong, which is the value itself. -/
theorem tells_own {α : Type} {t : FieldType} {c : Except Defect α}
    (same : faultOf c = t.refusal? v)
    (only : ∀ place fault, Offends t v place fault →
      ∃ d, t.refusal? v = some d ∧ place = [] ∧ fault = ⟨[], d⟩) :
    Tells (Offends t v) (.ofExcept c) := by
  cases c with
  | ok a =>
    refine .ok a fun place fault offends => ?_
    obtain ⟨d, refused, -⟩ := only place fault offends
    cases same.trans refused
  | error d =>
    refine .error fun place fault => ⟨fun offends => ?_, ?_⟩
    · obtain ⟨d', refused, rfl, rfl⟩ := only place fault offends
      cases same.trans refused
      exact ⟨rfl, rfl⟩
    · rintro ⟨rfl, rfl⟩
      exact .own same.symm

/-- A list of parts is told by the positions of the parts. -/
theorem told_positions {fs : List Fault}
    (each : ∀ place fault, wrong place fault ↔ ∃ i, place = [i] ∧ fs[i]? = some fault) :
    Told wrong fs := by
  refine ⟨fs.mapIdx fun i f => ([i], f), ?_, ?_, fun place fault => ?_⟩
  · refine List.ext_getElem? fun i => ?_
    rw [List.getElem?_map, List.getElem?_mapIdx]
    cases fs[i]? <;> rfl
  · rw [List.pairwise_iff_getElem]
    intro i j inside inside' less
    rw [List.getElem_mapIdx, List.getElem_mapIdx]
    exact List.cons_lt_cons_iff.mpr (.inl less)
  · rw [each, List.mem_mapIdx]
    constructor
    · rintro ⟨i, inside, same⟩
      cases same
      exact ⟨i, rfl, List.getElem?_eq_getElem inside⟩
    · rintro ⟨i, rfl, found⟩
      obtain ⟨inside, rfl⟩ := List.getElem?_eq_some_iff.mp found
      exact ⟨i, inside, rfl⟩

theorem readInstant_faults {v : Value} {fs : List Fault} (failed : readInstant v = .error fs) :
    fs ≠ [] := by
  cases v with
  | bytes b =>
    rw [readInstant, instantOfBytes] at failed
    split at failed
    · cases failed
      exact List.cons_ne_nil _ _
    · split at failed <;> cases failed
  | null | list | obj | pair | choice | record =>
    cases failed
    exact List.cons_ne_nil _ _
  | _ => cases failed

theorem tells_instant (v : Value) : Tells (Offends .instant v) (readInstant v) := by
  refine ⟨told_positions fun place fault => ?_, fun fs => readInstant_faults⟩
  constructor
  · intro offends
    cases offends with
    | own refused => cases refused
    | instant failed found =>
      rw [failed]
      exact ⟨_, rfl, found⟩
  · rintro ⟨i, rfl, found⟩
    cases failed : readInstant v with
    | ok w =>
      rw [failed] at found
      cases found
    | error fs =>
      rw [failed] at found
      exact .instant failed found

mutual

/-- By recursion on the type. -/
theorem read_tells : ∀ (t : FieldType) (v : Value), Tells (Offends t v) (t.read .data v)
  | .any, v => by
    rw [FieldType.read]
    exact .ok _ fun _ _ offends => by cases offends with | own refused => cases refused
  | .text, v | .integer, v | .double, v | .flag, v | .moment, v | .choice _, v => by
    rw [FieldType.read]
    refine tells_own ?_ fun place fault offends => ?_
    · simp only [faultOf_map, FieldType.refusal?]
    · cases offends with | own refused => exact ⟨_, refused, rfl, rfl⟩
  | .instanceOnly, v => by
    rw [FieldType.read]
    refine tells_own (c := .error .notInstance) rfl fun place fault offends => ?_
    cases offends with | own refused => exact ⟨_, refused, rfl, rfl⟩
  | .instant, v => by
    rw [FieldType.read]
    exact tells_instant v
  | .nullable t, v => by
    have inner := read_tells t v
    simp only [FieldType.read]
    split
    · refine .ok _ fun place fault offends => ?_
      cases offends with
      | own refused => cases refused
      | nullable present => exact present rfl
    · rename_i present
      exact inner.congr fun place fault => (offends_nullable present).symm
  | .list nonempty t, v => by
    rw [read_list_eq]
    cases listed : listed? v with
    | none =>
      refine tells_own (c := .error .notList) ?_ fun place fault offends => ?_
      · simp only [FieldType.refusal?, listed]
        rfl
      · cases offends with
        | own refused => exact ⟨_, refused, rfl, rfl⟩
        | item listed' => cases listed.symm.trans listed'
    | some vs =>
      simp only
      split
      next short =>
        refine tells_own (c := .error .tooShort) ?_ fun place fault offends => ?_
        · simp only [FieldType.refusal?, listed, short, if_true]
          rfl
        · cases offends with
          | own refused => exact ⟨_, refused, rfl, rfl⟩
          | item listed' found =>
            cases listed.symm.trans listed'
            simp only [Bool.and_eq_true, List.isEmpty_iff] at short
            rw [short.2] at found
            cases found
      next long =>
        refine (Tells.map _ (Tells.parts vs (fun i => ?_) fun i u _ =>
          (read_tells t u).within (.index i))).congr fun place fault =>
            (offends_list listed (by simpa using long)).symm
        rw [List.getElem?_mapIdx, List.getElem?_map]
        cases vs[i]? <;> rfl
  | .dict t, v => by
    cases v with
    | obj ms =>
      simp only [FieldType.read, Source.lastOfEach]
      refine (Tells.map _ (Tells.parts ms (fun i => ?_) fun i m _ =>
        ((read_tells t m.2).within (.name m.1)).map fun w => (m.1, w))).congr fun place fault =>
          ?_
      · rw [List.getElem?_map, List.getElem?_map]
        cases ms[i]? <;> rfl
      · rw [offends_dict]
        simp only [Prod.exists]
    | _ =>
      refine tells_own (c := .error .notObject) rfl fun place fault offends => ?_
      cases offends with | own refused => exact ⟨_, refused, rfl, rfl⟩
  | .record type, v => by
    have fields := record_tells type
    cases v with
    | obj ms =>
      simp only [FieldType.read, Source.lastOfEach]
      exact ((fields ms).map _).congr fun place fault => offends_record.symm
    | record kinds given members others =>
      simp only [FieldType.read]
      split
      next known =>
        refine .ok _ fun place fault offends => ?_
        cases offends with
        | own refused =>
          rw [FieldType.refusal?, if_pos known] at refused
          cases refused
      next unknown =>
        refine tells_own (c := .error .notRecord) ?_ fun place fault offends => ?_
        · rw [FieldType.refusal?, if_neg unknown]
          rfl
        · cases offends with | own refused => exact ⟨_, refused, rfl, rfl⟩
    | _ =>
      refine tells_own (c := .error .notRecord) rfl fun place fault offends => ?_
      cases offends with | own refused => exact ⟨_, refused, rfl, rfl⟩
  | .prepared preparation t, v => by
    rw [FieldType.read, Source.settle]
    split
    next u applied =>
      exact (read_tells t _).congr fun place fault => (offends_prepared applied).symm
    next d refused =>
      refine tells_own (c := .error d) ?_ fun place fault offends => ?_
      · rw [FieldType.refusal?, refused]
      · cases offends with
        | own refused => exact ⟨_, refused, rfl, rfl⟩
        | prepared applied => cases refused.symm.trans applied

theorem record_tells : ∀ (type : RecordType FieldType) (ms : Members),
    Tells (fun place fault => ∃ i p, place = i :: p ∧
      ∃ f, type.fields[i]? = some f ∧ f.OffendsIn ms p fault) (readRecordFields .data type ms)
  | ⟨_, fields, _⟩, ms => by
    have each := fields_tell fields ms
    rw [readRecordFields, readFields_eq_gather]
    exact Tells.parts fields (fun i => List.getElem?_map) fun i f found =>
      each f (List.mem_of_getElem? found)

theorem fields_tell : ∀ (fields : List (FieldSpec FieldType)) (ms : Members),
    ∀ f ∈ fields, Tells (f.OffendsIn ms) (readField .data f ms)
  | [], _ => List.forall_mem_nil _
  | f :: fields, ms => List.forall_mem_cons.mpr ⟨field_tells f ms, fields_tell fields ms⟩

theorem field_tells : ∀ (f : FieldSpec FieldType) (ms : Members),
    Tells (f.OffendsIn ms) (readField .data f ms)
  | ⟨name, outerName, t, fallback⟩, ms => by
    have own := read_tells t
    rw [readField_eq_foundIn]
    unfold FieldSpec.OffendsIn
    split
    next n v found => exact ((own v).within (.name n)).map _
    next absent =>
      cases fallback with
      | some v => exact .ok _ fun place fault wrong => by cases wrong.1
      | none => exact .error fun place fault => by simp

end

end PortableSearch.Shape
