import PortableSearch.Proofs.Shape.Reading
import PortableSearch.Proofs.Value.Distinct

/-! Settled values: those of data, and in a text those in which each name of an object stands once. A
value of a text that can be read is read alike after it has been settled, and all that is read of a
settled object are its members as they stand. -/
namespace PortableSearch.Shape
open Value
variable {source : Source} {type : RecordType FieldType} {f : FieldSpec FieldType}
  {fields : List (FieldSpec FieldType)} {t : FieldType} {ms : Members} {v w r : Value}

/-! Settling before reading -/

theorem FieldSpec.valueIn_mapValues (f : FieldSpec FieldType) (g : Value → Value) (ms : Members) :
    f.valueIn (ms.mapValues g) = (f.valueIn ms).map g := by
  rw [valueIn, valueIn, Members.lookup_mapValues, Members.lookup_mapValues, Option.map_or]

theorem nameIn_mapValues (f : FieldSpec FieldType) (g : Value → Value) (ms : Members) :
    f.nameIn (ms.mapValues g) = f.nameIn ms := by
  rw [FieldSpec.nameIn, FieldSpec.nameIn, Members.names_mapValues]

theorem unusedMembers_mapValues (fields : List (FieldSpec FieldType)) (g : Value → Value)
    (ms : Members) :
    unusedMembers fields (ms.mapValues g) = (unusedMembers fields ms).mapValues g := by
  simp only [unusedMembers, nameIn_mapValues]
  rw [Members.mapValues, List.filter_map]
  rfl

/-- A record keeps its other members settled, whether they were so before or not. -/
theorem buildRecord_distinct (kinds : List String) (type : RecordType FieldType) (ms : Members) :
    buildRecord .text kinds type (ms.mapValues distinct) = buildRecord .text kinds type ms := by
  funext out
  have given : givenNames type.fields (ms.mapValues distinct) = givenNames type.fields ms := by
    simp only [givenNames, nameIn_mapValues]
  have kept (others : Members) : (others.mapValues distinct).map (fun m => (m.1, m.2.distinct)) =
      others.map fun m => (m.1, m.2.distinct) := distinct_members others
  simp only [buildRecord, Source.settle, given, unusedMembers_mapValues]
  split
  · rw [kept, Members.names_mapValues]
  · rfl

/-- What is read of neither lists nor objects does not see whether these are settled. -/
theorem scalar_distinct {read : Value → Checked Value} (list : ∀ vs w, read (.list vs) ≠ .ok w)
    (obj : ∀ ms w, read (.obj ms) ≠ .ok w) (own : read v = .ok w) : read v.distinct = .ok w := by
  cases v with
  | list vs => exact absurd own (list vs w)
  | obj ms => exact absurd own (obj ms w)
  | _ => exact own

mutual

/-- By recursion on the type. -/
theorem read_distinct : ∀ (t : FieldType) {v w : Value}, t.read .text v = .ok w →
    t.read .text v.distinct = .ok w
  | .any, v, w, read => by
    rw [FieldType.read] at read ⊢
    rw [← read, Source.settle, distinct_distinct]
    rfl
  | .text, _, _, read | .integer, _, _, read | .double, _, _, read | .flag, _, _, read
  | .moment, _, _, read | .instant, _, _, read | .choice _, _, _, read
  | .instanceOnly, _, _, read => by
    refine scalar_distinct (fun vs w accepted => ?_) (fun ms w accepted => ?_) read
    · rw [FieldType.read] at accepted
      cases accepted
    · rw [FieldType.read] at accepted
      cases accepted
  | .nullable t, v, w, read => by
    have inner {v : Value} (own : t.read .text v = .ok w) := read_distinct t own
    cases v with
    | null => exact read
    | list vs =>
      rw [distinct_list]
      simp only [FieldType.read] at read ⊢
      rw [← distinct_list]
      exact inner read
    | obj ms =>
      rw [distinct_obj]
      simp only [FieldType.read] at read ⊢
      rw [← distinct_obj]
      exact inner read
    | _ => exact read
  | .list nonempty t, v, w, read => by
    cases v with
    | list vs =>
      rw [distinct_list]
      simp only [FieldType.read, List.isEmpty_map] at read ⊢
      split at read
      · cases read
      next enough =>
        rw [if_neg enough]
        rw [map_ok] at read ⊢
        obtain ⟨ws, gathered, same⟩ := read
        rw [Checked.gatherIndexed_ok, List.forall₂_map_left_iff] at gathered
        refine ⟨ws, ?_, same⟩
        rw [Checked.gatherIndexed_ok, List.forall₂_map_left_iff, List.forall₂_map_left_iff]
        exact gathered.imp fun _ _ own => read_distinct t own
    | record => exact read
    | _ =>
      simp only [FieldType.read] at read
      cases read
  | .dict t, v, w, read => by
    cases v with
    | obj ms =>
      rw [distinct_obj]
      simp only [FieldType.read, map_ok, Checked.gatherNamed_ok, List.forall₂_map_left_iff] at read ⊢
      obtain ⟨out, each, rfl⟩ := read
      refine ⟨.ofList out, ?_, by rw [Source.lastOfEach, Source.lastOfEach, Members.ofList_ofList]⟩
      refine Members.forall₂_ofList (R := fun v w => t.read .text v = .ok w) ?_
      rw [Members.mapValues, List.forall₂_map_left_iff]
      exact each.imp fun _ _ both => ⟨both.1, read_distinct t both.2⟩
    | _ =>
      simp only [FieldType.read] at read
      cases read
  | .record type, v, w, read => by
    cases v with
    | obj ms =>
      rw [distinct_obj]
      simp only [FieldType.read, map_ok, Source.lastOfEach, Members.ofList_ofList] at read ⊢
      obtain ⟨out, fields, same⟩ := read
      rw [Members.ofList_mapValues]
      exact ⟨out, readRecordFields_distinct type fields, by rw [buildRecord_distinct, same]⟩
    | record => exact read
    | _ =>
      simp only [FieldType.read] at read
      cases read
  | .prepared preparation t, v, w, read => by
    rw [FieldType.read] at read ⊢
    rwa [Source.settle, distinct_distinct]

theorem readRecordFields_distinct : ∀ (type : RecordType FieldType) {ms out : Members},
    readRecordFields .text type ms = .ok out →
      readRecordFields .text type (ms.mapValues distinct) = .ok out
  | ⟨_, fields, _⟩, ms, out, read => by
    rw [readRecordFields] at read ⊢
    exact readFields_distinct fields read

theorem readFields_distinct : ∀ (fields : List (FieldSpec FieldType)) {ms out : Members},
    readFields .text fields ms = .ok out →
      readFields .text fields (ms.mapValues distinct) = .ok out
  | [], _, _, read => by
    rw [readFields] at read ⊢
    exact read
  | f :: fields, ms, out, read => by
    rw [readFields, map_ok] at read ⊢
    obtain ⟨p, parts, same⟩ := read
    obtain ⟨first, others⟩ := Checked.both_ok.mp parts
    exact ⟨p, Checked.both_ok.mpr
      ⟨readField_distinct f first, readFields_distinct fields others⟩, same⟩

theorem readField_distinct : ∀ (f : FieldSpec FieldType) {ms : Members} {p : String × Value},
    readField .text f ms = .ok p → readField .text f (ms.mapValues distinct) = .ok p
  | ⟨name, outerName, t, fallback⟩, ms, p, read => by
    rw [readField_ok] at read ⊢
    refine ⟨read.1, ?_⟩
    have own := read.2
    rw [FieldSpec.ReadsAs] at own ⊢
    rw [FieldSpec.valueIn_mapValues]
    cases found : FieldSpec.valueIn ⟨name, outerName, t, fallback⟩ ms with
    | none => rwa [found] at own
    | some v =>
      rw [found] at own
      exact read_distinct t own

end

/-! Settled values -/

/-- Settling the value has no effect. -/
def Settled (source : Source) (v : Value) : Prop := source.settle v = v

theorem settled_data (v : Value) : Settled .data v := rfl

theorem settled_distinct (v : Value) : Settled .text v.distinct := distinct_distinct v

theorem Settled.lastOfEach (settled : Settled source (.obj ms)) : source.lastOfEach ms = ms := by
  cases source with
  | data => rfl
  | text =>
    rw [Settled, Source.settle, distinct_obj] at settled
    have same := obj.inj settled
    rw [Source.lastOfEach, ← same, Members.ofList_ofList]

theorem Settled.member (settled : Settled source (.obj ms)) {m : String × Value} (inside : m ∈ ms) :
    Settled source m.2 := by
  cases source with
  | data => rfl
  | text =>
    rw [Settled, Source.settle, distinct_obj, Members.ofList_mapValues] at settled
    rw [← obj.inj settled] at inside
    obtain ⟨n, -, rfl⟩ := List.mem_map.mp inside
    exact settled_distinct n.2

theorem Settled.valueIn (settled : Settled source (.obj ms)) (found : f.valueIn ms = some v) :
    Settled source v := by
  rcases Option.or_eq_some_iff.mp found with outer | ⟨-, own⟩
  · exact settled.member (Members.mem_of_lookup outer)
  · exact settled.member (Members.mem_of_lookup own)

/-- The items of a value as a list; a value that is none has none. -/
def listed (v : Value) : List Value := (listed? v).getD []

theorem Settled.listed (settled : Settled source v) {item : Value} (inside : item ∈ listed v) :
    Settled source item := by
  cases source with
  | data => rfl
  | text =>
    cases v with
    | list vs =>
      rw [Settled, Source.settle, distinct_list] at settled
      rw [Shape.listed, listed?, Option.getD_some, ← list.inj settled] at inside
      obtain ⟨n, -, rfl⟩ := List.mem_map.mp inside
      exact settled_distinct n
    | record kinds given fields others =>
      obtain ⟨m, -, rfl⟩ := List.mem_map.mp inside
      rfl
    | _ => cases inside

theorem read_any (settled : Settled source v) : FieldType.any.read source v = .ok v := by
  rw [FieldType.read, settled]

theorem read_listed (read : (FieldType.list false t).read source v = .ok w) : ∃ ws, w = .list ws ∧
    List.Forall₂ (fun v w => t.read source v = .ok w) (listed v) ws := by
  rw [read_list_eq] at read
  rw [listed]
  cases items : listed? v with
  | none =>
    rw [items] at read
    cases read
  | some vs =>
    rw [items] at read
    exact read_list_ok.mp ((read_list_eq false t (.list vs)).trans read)

theorem read_dict_settled (settled : Settled source (.obj ms))
    (read : (FieldType.dict t).read source (.obj ms) = .ok w) : ∃ out, w = .obj out ∧
      List.Forall₂ (fun m p => p.1 = m.1 ∧ t.read source m.2 = .ok p.2) ms out := by
  simp only [FieldType.read, map_ok, Checked.gatherNamed_ok, List.forall₂_map_left_iff] at read
  obtain ⟨out, each, rfl⟩ := read
  refine ⟨out, ?_, each⟩
  cases source with
  | data => rfl
  | text =>
    have names : out.names = ms.names :=
      Members.names_of_forall₂ (each.imp fun _ _ both => both.1)
    have once : out.names.Nodup := by
      rw [names, ← settled.lastOfEach]
      exact Members.nodup_ofList ms
    rw [Source.lastOfEach, Members.ofList_of_nodup once]

/-- The fields of a record are those that the members of a settled object are read as. -/
theorem read_record_settled (once : (type.fields.map FieldSpec.name).Nodup)
    (settled : Settled source (.obj ms))
    (read : (FieldType.record type).read source (.obj ms) = .ok r) (inside : f ∈ type.fields) :
    f.ReadsAs source ms (r.fields.get f.name) := by
  obtain ⟨kind, specs, keepsOthers⟩ := type
  simp only [FieldType.read, map_ok, settled.lastOfEach, readRecordFields] at read
  obtain ⟨out, each, rfl⟩ := read
  exact readFields_get once each inside

/-! What fields are read as -/

theorem valueIn_own (same : f.outerName = f.name) (ms : Members) :
    f.valueIn ms = ms.lookup f.name := by
  rw [FieldSpec.valueIn, same, Option.or_self]

/-- A field with a fallback is read from its value or is the fallback. -/
theorem preset_cases (own : f.ReadsAs source ms w) {u : Value} (filled : f.fallback = some u) :
    f.valueIn ms = none ∧ w = u ∨ ∃ v, f.valueIn ms = some v ∧ f.type.read source v = .ok w := by
  rw [FieldSpec.ReadsAs] at own
  cases found : f.valueIn ms with
  | none =>
    rw [found, filled] at own
    exact .inl ⟨rfl, (Option.some.inj own).symm⟩
  | some v =>
    rw [found] at own
    exact .inr ⟨v, rfl, own⟩

theorem read_integer_ok (read : FieldType.integer.read source v = .ok w) :
    ∃ n, w = .int n ∧ readInteger v = .ok n := by
  rw [FieldType.read] at read
  cases counted : readInteger v with
  | error d =>
    rw [counted] at read
    cases read
  | ok n =>
    rw [counted] at read
    cases read
    exact ⟨n, rfl, rfl⟩

theorem preset_integer (own : f.ReadsAs source ms w) (type : f.type = .integer)
    (filled : f.fallback = some (.int 0)) :
    ∃ n, w = .int n ∧ readInteger ((f.valueIn ms).getD (.int 0)) = .ok n := by
  rcases preset_cases own filled with ⟨absent, rfl⟩ | ⟨v, found, read⟩
  · rw [absent]
    exact ⟨0, rfl, rfl⟩
  · rw [type] at read
    rw [found]
    exact read_integer_ok read

theorem preset_list (own : f.ReadsAs source ms w) (type : f.type = .list false t)
    (filled : f.fallback = some (.list [])) : ∃ ws, w = .list ws ∧
      List.Forall₂ (fun v w => t.read source v = .ok w) (listed ((f.valueIn ms).getD .null)) ws := by
  rcases preset_cases own filled with ⟨absent, rfl⟩ | ⟨v, found, read⟩
  · rw [absent]
    exact ⟨[], rfl, .nil⟩
  · rw [type] at read
    rw [found, Option.getD_some]
    exact read_listed read

/-- A field that may be null is null, or is read from a value that is not. -/
theorem optional_cases (own : f.ReadsAs source ms w) (type : f.type = .nullable t)
    (filled : f.fallback = some .null) :
    w = .null ∧ (f.valueIn ms).getD .null = .null ∨
      ∃ v, f.valueIn ms = some v ∧ v ≠ .null ∧ t.read source v = .ok w := by
  rcases preset_cases own filled with ⟨absent, rfl⟩ | ⟨v, found, read⟩
  · rw [absent]
    exact .inl ⟨rfl, rfl⟩
  · rw [type] at read
    by_cases null : v = .null
    · subst null
      rw [FieldType.read] at read
      cases read
      exact .inl ⟨rfl, by rw [found]; rfl⟩
    · refine .inr ⟨v, found, null, ?_⟩
      cases v <;> first | exact absurd rfl null | simpa only [FieldType.read] using read

/-- What is null gives nothing, given or not. -/
theorem bind_null {β : Type} {o : Option Value} {g : Value → Option β} (null : o.getD .null = .null)
    (nothing : g .null = none) : o.bind g = none := by
  cases o with
  | none => rfl
  | some v =>
    obtain rfl : v = .null := null
    exact nothing

theorem optional_text (own : f.ReadsAs source ms w) (type : f.type = .nullable .text)
    (filled : f.fallback = some .null) :
    w.text? = (f.valueIn ms).bind fun v => (readText v).toOption := by
  rcases optional_cases own type filled with ⟨rfl, null⟩ | ⟨v, found, -, read⟩
  · rw [bind_null null rfl]
    rfl
  · rw [found, Option.bind_some]
    rw [FieldType.read] at read
    cases written : readText v with
    | error d =>
      rw [written] at read
      cases read
    | ok s =>
      rw [written] at read
      cases read
      rfl

theorem optional_any (own : f.ReadsAs source ms w) (settled : Settled source (.obj ms))
    (type : f.type = .nullable .any) (filled : f.fallback = some .null) :
    w.present? = (f.valueIn ms).bind Value.present? := by
  rcases optional_cases own type filled with ⟨rfl, null⟩ | ⟨v, found, -, read⟩
  · rw [bind_null null rfl]
    rfl
  · rw [read_any (settled.valueIn found)] at read
    cases read
    rw [found, Option.bind_some]

/-- A dictionary has each value as it is read by itself, under its name. -/
theorem optional_dict {g : Value → Value} (own : f.ReadsAs source ms w)
    (settled : Settled source (.obj ms)) (type : f.type = .nullable (.dict t))
    (filled : f.fallback = some .null)
    (each : ∀ v w, Settled source v → t.read source v = .ok w → w = g v) :
    w.members? = ((f.valueIn ms).bind Value.members?).map (Members.mapValues g) := by
  rcases optional_cases own type filled with ⟨rfl, null⟩ | ⟨v, found, -, read⟩
  · rw [bind_null null rfl]
    rfl
  · have inside := settled.valueIn found
    cases v with
    | obj entries =>
      obtain ⟨out, rfl, named⟩ := read_dict_settled inside read
      rw [found]
      refine congrArg some (Members.mapValues_iff.mp ?_)
      have both := (List.forall₂_and_left _ _).mpr ⟨fun m => inside.member (m := m), named⟩
      exact both.imp fun m p own => ⟨own.2.1, each _ _ own.1 own.2.2⟩
    | _ =>
      simp only [FieldType.read] at read
      cases read

theorem read_list_any (settled : Settled source v)
    (read : (FieldType.list false .any).read source v = .ok w) : w = .list (listed v) := by
  obtain ⟨ws, rfl, each⟩ := read_listed read
  have both := (List.forall₂_and_left _ _).mpr ⟨fun u inside => settled.listed inside, each⟩
  have same : List.Forall₂ (fun u w => u = w) (listed v) ws := by
    refine both.imp fun u w own => ?_
    have equal := own.2
    rw [read_any own.1] at equal
    exact Except.ok.inj equal
  rw [List.forall₂_eq_eq_eq] at same
  rw [same]

end PortableSearch.Shape
