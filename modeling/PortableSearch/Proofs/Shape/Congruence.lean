import PortableSearch.Proofs.Shape.Reading

/-! Values that are read alike, faults included. A list is read alike where its items are, and a
record where each field is found under the same name and read alike there, and the same members are
left over. -/
namespace PortableSearch.Shape
variable {source : Source} {ms ms' : Members}

/-! Lists and dictionaries -/

theorem read_list_congr {nonempty : Bool} {type : FieldType} {vs vs' : List Value}
    (alike : List.Forall₂ (fun v v' => type.read source v = type.read source v') vs vs') :
    (FieldType.list nonempty type).read source (.list vs) =
      (FieldType.list nonempty type).read source (.list vs') := by
  have empty : vs.isEmpty = vs'.isEmpty := by
    cases alike <;> rfl
  have items : vs.map (fun v => type.read source v) = vs'.map fun v => type.read source v := by
    rw [← List.forall₂_eq_eq_eq, List.forall₂_map_left_iff, List.forall₂_map_right_iff]
    exact alike
  simp only [FieldType.read, empty, items]

theorem read_dict_congr {type : FieldType} (alike : List.Forall₂
      (fun m m' => m.1 = m'.1 ∧ type.read source m.2 = type.read source m'.2) ms ms') :
    (FieldType.dict type).read source (.obj ms) = (FieldType.dict type).read source (.obj ms') := by
  have members : ms.map (fun m => (m.1, type.read source m.2)) =
      ms'.map fun m => (m.1, type.read source m.2) := by
    rw [← List.forall₂_eq_eq_eq, List.forall₂_map_left_iff, List.forall₂_map_right_iff]
    exact alike.imp fun m m' both => Prod.ext both.1 both.2
  simp only [FieldType.read, members]

/-! Records -/

/-- A field is read under its outer name or else its own, or filled in. -/
theorem readField_eq (f : FieldSpec FieldType) (ms : Members) : readField source f ms =
    ((((ms.lookup f.outerName).map fun v => f.type.read source v).map fun c =>
        (Checked.within (.name f.outerName) c).map fun w => (f.name, w)).or
      (((ms.lookup f.name).map fun v => f.type.read source v).map fun c =>
        (Checked.within (.name f.name) c).map fun w => (f.name, w))).getD
      (f.fallback.elim (.error [⟨[.name f.outerName], .missing⟩]) fun v => .ok (f.name, v)) := by
  obtain ⟨name, outerName, type, fallback⟩ := f
  simp only [readField]
  cases ms.lookup outerName with
  | some v => rfl
  | none =>
    cases ms.lookup name with
    | some v => rfl
    | none => cases fallback <;> rfl

theorem readField_congr {f : FieldSpec FieldType}
    (outer : (ms.lookup f.outerName).map (fun v => f.type.read source v) =
      (ms'.lookup f.outerName).map fun v => f.type.read source v)
    (own : (ms.lookup f.name).map (fun v => f.type.read source v) =
      (ms'.lookup f.name).map fun v => f.type.read source v) :
    readField source f ms = readField source f ms' := by
  rw [readField_eq, readField_eq, outer, own]

theorem readFields_congr {fields : List (FieldSpec FieldType)}
    (alike : ∀ f ∈ fields, readField source f ms = readField source f ms') :
    readFields source fields ms = readFields source fields ms' := by
  induction fields with
  | nil => rfl
  | cons f fields ih =>
    have ⟨first, others⟩ := List.forall_mem_cons.mp alike
    rw [readFields, readFields, first, ih others]

theorem nameIn_congr {f : FieldSpec FieldType}
    (outer : f.outerName ∈ ms.names ↔ f.outerName ∈ ms'.names)
    (own : f.name ∈ ms.names ↔ f.name ∈ ms'.names) : f.nameIn ms = f.nameIn ms' := by
  simp only [FieldSpec.nameIn, List.contains_iff_mem, outer, own]

theorem leftOver_congr {fields : List (FieldSpec FieldType)} {name : String}
    (names : ∀ n, n ∈ ms.names ↔ n ∈ ms'.names) :
    LeftOver fields ms name ↔ LeftOver fields ms' name := by
  simp only [LeftOver, names]

theorem read_record_congr {type : RecordType FieldType}
    (found : ∀ f ∈ type.fields, f.nameIn ms = f.nameIn ms')
    (fields : ∀ f ∈ type.fields, readField .data f ms = readField .data f ms')
    (others : type.keepsOthers = true →
      unusedMembers type.fields ms = unusedMembers type.fields ms') :
    (FieldType.record type).read .data (.obj ms) =
      (FieldType.record type).read .data (.obj ms') := by
  have given : givenNames type.fields ms = givenNames type.fields ms' := by
    rw [givenNames, givenNames, List.filter_congr fun f inside => by rw [found f inside]]
  have kept : (if type.keepsOthers then unusedMembers type.fields ms else []) =
      if type.keepsOthers then unusedMembers type.fields ms' else [] := by
    split
    next keeps => exact others keeps
    next => rfl
  have built : buildRecord .data [type.kind] type ms = buildRecord .data [type.kind] type ms' := by
    funext out
    simp only [buildRecord, given, kept]
  obtain ⟨kind, specs, keepsOthers⟩ := type
  simp only [FieldType.read, Source.lastOfEach, readRecordFields, readFields_congr fields, built]

theorem unusedMembers_without {fields : List (FieldSpec FieldType)} {name : String}
    (declared : ∃ f ∈ fields, f.outerName = name) (ms : Members) :
    unusedMembers fields ms = (ms.without name).filter fun m => decide (LeftOver fields ms m.1) := by
  obtain ⟨f, inside, rfl⟩ := declared
  rw [unusedMembers_eq, Members.without, List.filter_filter]
  refine List.filter_congr fun m _ => ?_
  by_cases same : m.1 = f.outerName
  · simp [same, not_leftOver inside]
  · simp [same]

/-- A record is read alike where the members of its fields are the same and so are those left
over. -/
theorem read_record_of_lookups {type : RecordType FieldType}
    (same : ∀ f ∈ type.fields, ms.lookup f.outerName = ms'.lookup f.outerName ∧
      ms.lookup f.name = ms'.lookup f.name)
    (others : type.keepsOthers = true →
      unusedMembers type.fields ms = unusedMembers type.fields ms') :
    (FieldType.record type).read .data (.obj ms) =
      (FieldType.record type).read .data (.obj ms') := by
  refine read_record_congr (fun f inside => ?_) (fun f inside => ?_) others
  · obtain ⟨outer, own⟩ := same f inside
    apply nameIn_congr
    · rw [Members.mem_names_iff, Members.mem_names_iff, outer]
    · rw [Members.mem_names_iff, Members.mem_names_iff, own]
  · obtain ⟨outer, own⟩ := same f inside
    apply readField_congr
    · rw [outer]
    · rw [own]

/-- The member of a field may stand anywhere among the others. -/
theorem read_record_of_moved {type : RecordType FieldType} {n : String} {v : Value}
    (declared : ∃ f ∈ type.fields, f.outerName = n) (found : ms.lookup n = some v)
    (found' : ms'.lookup n = some v) (rest : ms.without n = ms'.without n) :
    (FieldType.record type).read .data (.obj ms) =
      (FieldType.record type).read .data (.obj ms') := by
  have lookups : ∀ m, ms.lookup m = ms'.lookup m := by
    intro m
    by_cases same : m = n
    · rw [same, found, found']
    · rw [← Members.lookup_without same, rest, Members.lookup_without same]
  have names : ∀ m, m ∈ ms.names ↔ m ∈ ms'.names := by
    intro m
    rw [Members.mem_names_iff, Members.mem_names_iff, lookups]
  refine read_record_of_lookups (fun f _ => ⟨lookups _, lookups _⟩) fun _ => ?_
  simp only [unusedMembers_without declared, rest, leftOver_congr names]

/-- Values of a member that a kind of record reads alike: they are the same, or else the member is
one that fields use, and each of these reads them alike. -/
def RecordType.ReadsAlike (type : RecordType FieldType) (name : String) (v v' : Value) : Prop :=
  v = v' ∨ (∃ f ∈ type.fields, f.outerName = name) ∧ ∀ f ∈ type.fields,
    f.outerName = name ∨ f.name = name → f.type.read .data v = f.type.read .data v'

/-- Values of a member that only one field reads. -/
theorem RecordType.ReadsAlike.of_field {type : RecordType FieldType} {v v' : Value}
    {f : FieldSpec FieldType} (inside : f ∈ type.fields)
    (only : ∀ g ∈ type.fields, g.outerName = f.outerName ∨ g.name = f.outerName → g = f)
    (alike : f.type.read .data v = f.type.read .data v') : type.ReadsAlike f.outerName v v' := by
  refine .inr ⟨⟨f, inside, rfl⟩, fun g there called => ?_⟩
  obtain rfl := only g there called
  exact alike

/-- A record is read alike where each of its members is. -/
theorem read_record_of_alike {type : RecordType FieldType} (alike : List.Forall₂
      (fun m m' => m.1 = m'.1 ∧ type.ReadsAlike m.1 m.2 m'.2) ms ms') :
    (FieldType.record type).read .data (.obj ms) =
      (FieldType.record type).read .data (.obj ms') := by
  have names : ms'.names = ms.names :=
    Members.names_of_forall₂ (alike.imp fun _ _ both => both.1.symm)
  have members : ∀ n, n ∈ ms.names ↔ n ∈ ms'.names := fun n => by rw [names]
  have lookups : ∀ f ∈ type.fields, ∀ n, f.outerName = n ∨ f.name = n →
      (ms.lookup n).map (fun v => f.type.read .data v) =
        (ms'.lookup n).map fun v => f.type.read .data v := by
    intro f inside n called
    refine Members.lookup_map_congr (alike.imp ?_)
    rintro m m' ⟨same, either⟩
    refine ⟨same, ?_⟩
    rintro rfl
    rcases either with equal | ⟨-, each⟩
    · rw [equal]
    · exact each f inside called
  have others : unusedMembers type.fields ms = unusedMembers type.fields ms' := by
    simp only [unusedMembers_eq, leftOver_congr members]
    refine Members.filter_names_congr (p := fun n => decide (LeftOver type.fields ms' n))
      (alike.imp ?_)
    rintro m m' ⟨same, either⟩
    refine ⟨same, fun left => ?_⟩
    rcases either with equal | ⟨⟨f, inside, called⟩, -⟩
    · exact equal
    · exact absurd called (of_decide_eq_true left f inside).1
  refine read_record_congr (fun f _ => ?_) (fun f inside => ?_) fun _ => others
  · exact nameIn_congr (members _) (members _)
  · exact readField_congr (lookups f inside _ (.inl rfl)) (lookups f inside _ (.inr rfl))

end PortableSearch.Shape
