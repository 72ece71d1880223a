import PortableSearch.Aggregation.Native
import PortableSearch.Proofs.Members
import PortableSearch.Proofs.Outcome

/-! Adding nested aggregations to a native body. It fails by what the body says itself, whatever is
added; where it succeeds, all that is added is there. To an object they are added member by
member. -/
namespace PortableSearch.Aggregation.Native

theorem sameKey_text (key : Value) (name : String) :
    sameKey key (.str name) = decide (key.text? = some name) := by
  cases key with
  | bool | int => rfl
  | float x =>
    cases number : Decimal.Whole.ofFloat x <;> simp [sameKey, numberOf?, number, Value.text?]
  | str s => simp [sameKey, numberOf?, Value.text?]
  | choice type option s => simp [sameKey, numberOf?, Value.text?]
  | _ => simp [sameKey, numberOf?, Value.text?]

theorem keyName_of_text {key : Value} {name : String} (text : key.text? = some name) :
    keyName? key = some name := by
  cases key <;> simp_all [Value.text?, keyName?]

/-- Why a native body takes no nested aggregations: what it has under their member is not made of
pairs, or one of these has a key that has no name. -/
def RefusesNested (body : Members) (defect : NestingDefect) : Prop :=
  readNested (body.get nestedMember) = .error defect ∨
    defect = .notPairs ∧ ∃ own, readNested (body.get nestedMember) = .ok own ∧
      ∃ p ∈ own, keyName? p.1 = none

theorem namePairs_cons (p : Value × Value) (pairs : List (Value × Value)) :
    namePairs (p :: pairs) = match keyName? p.1 with
      | some name => (namePairs pairs).map ((name, p.2) :: ·)
      | none => .error .notPairs := by
  refine List.mapM_cons.trans ?_
  change (_ >>= fun m => namePairs pairs >>= fun ms => pure (m :: ms)) = _
  cases keyName? p.1 with
  | none => rfl
  | some name => cases namePairs pairs <;> rfl

theorem namePairs_error {pairs : List (Value × Value)} {defect : NestingDefect} :
    namePairs pairs = .error defect ↔ defect = .notPairs ∧ ∃ p ∈ pairs, keyName? p.1 = none := by
  induction pairs with
  | nil => simp [namePairs, pure, Except.pure]
  | cons p pairs ih =>
    rw [namePairs_cons]
    cases name : keyName? p.1 with
    | none => simp [name, eq_comm]
    | some name =>
      rw [← faultOf_eq_some, faultOf_map, faultOf_eq_some, ih]
      simp [name]

theorem nameless_setPair (name : String) (v : Value) (pairs : List (Value × Value)) :
    (∃ p ∈ setPair (.str name) v pairs, keyName? p.1 = none) ↔
      ∃ p ∈ pairs, keyName? p.1 = none := by
  induction pairs with
  | nil => simp [setPair, keyName?]
  | cons p pairs ih =>
    rw [setPair]
    split
    · simp
    · simp [ih]

/-- The pairs with members set one after another. -/
def setPairs (pairs : List (Value × Value)) (ms : Members) : List (Value × Value) :=
  ms.foldl (fun ps m => setPair (.str m.1) m.2 ps) pairs

theorem nameless_setPairs (pairs : List (Value × Value)) (ms : Members) :
    (∃ p ∈ setPairs pairs ms, keyName? p.1 = none) ↔ ∃ p ∈ pairs, keyName? p.1 = none := by
  induction ms generalizing pairs with
  | nil => rfl
  | cons m ms ih => exact (ih _).trans (nameless_setPair m.1 m.2 pairs)

theorem nest_eq (body nested : Members) : nest body nested = do
    let own ← readNested (body.get nestedMember)
    return body.put nestedMember (.obj (← namePairs (setPairs own nested))) := rfl

theorem nest_error {body nested : Members} {defect : NestingDefect} :
    nest body nested = .error defect ↔ RefusesNested body defect := by
  rw [nest_eq, RefusesNested]
  cases read : readNested (body.get nestedMember) with
  | error other => simp [bind, Except.bind]
  | ok own =>
    have naming : (do return body.put nestedMember (.obj (← namePairs (setPairs own nested)))) =
        .error defect ↔ namePairs (setPairs own nested) = .error defect := by
      cases namePairs (setPairs own nested) <;> simp [bind, Except.bind, pure, Except.pure]
    refine naming.trans ?_
    rw [namePairs_error, nameless_setPairs]
    simp

/-! What is there after adding -/

theorem mem_setPair (name : String) (v : Value) (pairs : List (Value × Value)) :
    ∃ p ∈ setPair (.str name) v pairs, p.1.text? = some name ∧ p.2 = v := by
  induction pairs with
  | nil => exact ⟨_, List.mem_cons_self, rfl, rfl⟩
  | cons p pairs ih =>
    rw [setPair]
    split
    next same =>
      rw [sameKey_text, decide_eq_true_eq] at same
      exact ⟨_, List.mem_cons_self, same, rfl⟩
    next =>
      obtain ⟨q, inside, found⟩ := ih
      exact ⟨q, List.mem_cons_of_mem p inside, found⟩

theorem mem_setPair_of_ne {name other : String} (v : Value) {pairs : List (Value × Value)}
    {p : Value × Value} (inside : p ∈ pairs) (text : p.1.text? = some other)
    (different : other ≠ name) : p ∈ setPair (.str name) v pairs := by
  induction pairs with
  | nil => cases inside
  | cons q pairs ih =>
    rw [setPair]
    split
    next same =>
      rw [sameKey_text, decide_eq_true_eq] at same
      rcases List.mem_cons.mp inside with rfl | later
      · rw [text] at same
        exact absurd (Option.some.inj same) different
      · exact List.mem_cons_of_mem _ later
    next =>
      rcases List.mem_cons.mp inside with rfl | later
      · exact List.mem_cons_self
      · exact List.mem_cons_of_mem q (ih later)

theorem mem_setPairs_of_not_mem {name : String} {ms : Members} {pairs : List (Value × Value)}
    {p : Value × Value} (inside : p ∈ pairs) (text : p.1.text? = some name)
    (absent : name ∉ ms.names) : p ∈ setPairs pairs ms := by
  induction ms generalizing pairs with
  | nil => exact inside
  | cons m ms ih =>
    obtain ⟨different, later⟩ := not_or.mp (mt List.mem_cons.mpr absent)
    exact ih (mem_setPair_of_ne m.2 inside text different) later

theorem mem_setPairs {ms : Members} (distinct : ms.names.Nodup) (pairs : List (Value × Value))
    {m : String × Value} (inside : m ∈ ms) :
    ∃ p ∈ setPairs pairs ms, p.1.text? = some m.1 ∧ p.2 = m.2 := by
  induction ms generalizing pairs with
  | nil => cases inside
  | cons n rest ih =>
    obtain ⟨fresh, distinct⟩ := List.nodup_cons.mp distinct
    rcases List.mem_cons.mp inside with rfl | later
    · obtain ⟨p, set, text, value⟩ := mem_setPair m.1 m.2 pairs
      have kept : p ∈ setPairs (setPair (.str m.1) m.2 pairs) rest :=
        mem_setPairs_of_not_mem set text fresh
      exact ⟨p, kept, text, value⟩
    · exact ih distinct _ later

theorem mem_namePairs {pairs : List (Value × Value)} {ms : Members}
    (named : namePairs pairs = .ok ms) {p : Value × Value} (inside : p ∈ pairs) {name : String}
    (text : p.1.text? = some name) : (name, p.2) ∈ ms := by
  have each := mapM_ok_iff.mp named
  clear named
  induction each with
  | nil => cases inside
  | @cons q m _ _ first _ ih =>
    rcases List.mem_cons.mp inside with rfl | later
    · rw [keyName_of_text text] at first
      exact Except.ok.inj first ▸ List.mem_cons_self
    · exact List.mem_cons_of_mem m (ih later)

/-- All nested aggregations that are added to a body are there afterwards. -/
theorem nest_ok {body nested members : Members} (distinct : nested.names.Nodup)
    (made : nest body nested = .ok members) :
    ∃ ms, members = body.put nestedMember (.obj ms) ∧ nested ⊆ ms := by
  rw [nest_eq] at made
  obtain ⟨own, -, made⟩ := bind_ok.mp made
  obtain ⟨ms, named, made⟩ := bind_ok.mp made
  refine ⟨ms, (Except.ok.inj made).symm, fun m inside => ?_⟩
  obtain ⟨p, set, text, value⟩ := mem_setPairs distinct own inside
  have there := mem_namePairs named set text
  rwa [value] at there

/-! Adding to an object -/

/-- The nested aggregations that a body names itself, in an object; it names none where it has null
for them or no member at all. -/
def ownNested? (body : Members) : Option Members :=
  match body.get nestedMember with
  | .null => some []
  | .obj ms => some ms
  | .record _ _ fields others => some (fields ++ others)
  | _ => none

variable {body own : Members}

theorem readNested_own (named : ownNested? body = some own) :
    readNested (body.get nestedMember) = .ok (textPairs own) := by
  unfold ownNested? at named
  split at named
  next missing =>
    cases named
    rw [missing]
    rfl
  next ms there =>
    cases named
    rw [there]
    cases own <;> rfl
  next there =>
    cases named
    rw [there]
    rfl
  next => cases named

theorem setPair_textPairs (name : String) (v : Value) (ms : Members) :
    setPair (.str name) v (textPairs ms) = textPairs (ms.put name v) := by
  induction ms with
  | nil => rfl
  | cons m ms ih =>
    have same : sameKey (.str m.1) (.str name) = decide (m.1 = name) := by
      rw [sameKey_text]
      simp [Value.text?]
    rw [Members.put, textPairs, List.map_cons, setPair, same]
    by_cases equal : m.1 = name
    · simp [equal, textPairs]
    · simp only [equal, decide_false, Bool.false_eq_true, if_false]
      rw [← textPairs, ih]
      rfl

theorem setPairs_textPairs (ms more : Members) :
    setPairs (textPairs ms) more = textPairs (ms.update more) := by
  induction more generalizing ms with
  | nil => rfl
  | cons m more ih =>
    rw [Members.update_cons, ← ih, ← setPair_textPairs]
    rfl

theorem namePairs_textPairs (ms : Members) : namePairs (textPairs ms) = .ok ms := by
  induction ms with
  | nil => rfl
  | cons m ms ih =>
    rw [textPairs, List.map_cons, namePairs_cons, ← textPairs, ih]
    rfl

/-- Members that are added to those of an object are set one after another. -/
theorem nest_own (named : ownNested? body = some own) (nested : Members) :
    nest body nested = .ok (body.put nestedMember (.obj (own.update nested))) := by
  rw [nest_eq, readNested_own named]
  show (do return body.put nestedMember (.obj (← namePairs (setPairs (textPairs own) nested)))) = _
  rw [setPairs_textPairs, namePairs_textPairs]
  rfl

end PortableSearch.Aggregation.Native
