import PortableSearch.Request.Compile
import PortableSearch.Proofs.Members
import PortableSearch.Proofs.Outcome
import PortableSearch.Proofs.Text.Ascending

/-! The fields of the documents that a request asks for count as a set. The body names them in
ascending order, each once, and the whole outcome is the same for all lists of the same names. -/
namespace PortableSearch.Request

/-- The body asks for the fields of a list by these names: each of the list once, in ascending order.
Where the list is empty it asks for none, and has no member for them. -/
structure Projects (body : Value) (fields names : List String) : Prop where
  ascending : Text.IsAscending names
  same_names : ∀ name, name ∈ names ↔ name ∈ fields
  absent : body.fields.lookup "_source" = none ↔ fields = []
  written : fields ≠ [] → body.fields.lookup "_source" = some (.list (names.map .str))

variable {r : Request} {current : Calendar.Moment} {fallbackZone : Option String}
  {given : Option Context} {request : Engine.Request}

theorem compile_source (compiled : r.compile current fallbackZone given = .ok request) :
    request.source = Text.ascending r.fields := by
  obtain ⟨context, -, whole⟩ := bind_ok.mp compiled
  obtain ⟨query, -, rest⟩ := bind_ok.mp (mapError_ok.mp whole)
  obtain ⟨aggregations, -, made⟩ := bind_ok.mp rest
  cases made
  rfl

theorem lookup_listMember (name other : String) (vs : List Value) :
    (Engine.Request.listMember name vs).lookup other =
      if other = name ∧ vs ≠ [] then some (.list vs) else none := by
  by_cases same : other = name
  · cases vs <;> simp [Engine.Request.listMember, same]
  · have different : (other == name) = false := by simpa using same
    cases vs <;> simp [Engine.Request.listMember, List.lookup_cons, different, same]

theorem lookup_objectMember_of_ne {name other : String} (ms : Members) (different : other ≠ name) :
    (Engine.Request.objectMember name ms).lookup other = none := by
  have skipped : (other == name) = false := by simpa using different
  cases ms <;> simp [Engine.Request.objectMember, List.lookup_cons, skipped]

theorem lookup_source (request : Engine.Request) : request.body.fields.lookup "_source" =
    if request.source = [] then none else some (.list (request.source.map .str)) := by
  have paged : List.lookup "_source" [("from", Value.int request.start), ("size", .int request.size)] =
      none := by simp [List.lookup_cons]
  simp only [Engine.Request.body, Value.fields, Engine.Request.members, List.lookup_append, paged,
    Members.lookup_optional, lookup_listMember,
    lookup_objectMember_of_ne _ (show "_source" ≠ "aggs" by decide)]
  cases request.source <;> simp

/-- Of the fields only which there are counts, also for the fault of a request that has no body. -/
theorem compile_congr_fields {fields : List String} (same : ∀ name, name ∈ fields ↔ name ∈ r.fields) :
    { r with fields }.compile current fallbackZone given =
      r.compile current fallbackZone given := by
  have source : Text.ascending fields = Text.ascending r.fields := Text.ascending_congr same
  have inContext (context : Context) :
      { r with fields }.compileIn current context = r.compileIn current context := by
    simp only [compileIn, source]
  simp only [compile, inContext]
  rfl

/-- The fields that are asked for are a set: requests that differ only in their order or in how often
they name them have one outcome, the body names each field once and in ascending order, and the
names that it has give it again. -/
theorem compile_projects (r : Request) (current : Calendar.Moment) (fallbackZone : Option String)
    (given : Option Context) :
    (∀ fields, (∀ name, name ∈ fields ↔ name ∈ r.fields) →
      { r with fields }.compile current fallbackZone given =
        r.compile current fallbackZone given) ∧
    ∀ request, r.compile current fallbackZone given = .ok request →
      ∃ names, Projects request.body r.fields names ∧
        { r with fields := names }.compile current fallbackZone given = .ok request := by
  refine ⟨fun fields same => compile_congr_fields same, fun request compiled => ?_⟩
  have source := compile_source compiled
  have names (name : String) : name ∈ request.source ↔ name ∈ r.fields := by
    rw [source, Text.mem_ascending]
  have empty : request.source = [] ↔ r.fields = [] := by
    simp only [List.eq_nil_iff_forall_not_mem, names]
  refine ⟨request.source, ⟨?_, names, ?_, fun filled => ?_⟩, ?_⟩
  · rw [source]
    exact Text.isAscending_ascending r.fields
  · rw [lookup_source, ← empty]
    split <;> simp_all
  · rw [lookup_source, if_neg (mt empty.mp filled)]
  · rw [compile_congr_fields names, compiled]

/-- A name outside the basic plane follows all names of the plane, the last of them too, and a name
that is asked for twice is written once. -/
theorem astral_name_projects :
    let r : Request := ⟨0, none, none, [], [], ["😀", "\uffff", "a", "😀"], none, []⟩
    ∃ request names, r.compile ⟨0, some 0⟩ none (some Context.empty) = .ok request ∧
      Projects request.body r.fields names ∧ names = ["a", "\uffff", "😀"] ∧
      { r with fields := names }.compile ⟨0, some 0⟩ none (some Context.empty) = .ok request := by
  intro r
  have compiled : r.compile ⟨0, some 0⟩ none (some Context.empty) = .ok _ := rfl
  obtain ⟨names, projects, again⟩ :=
    (compile_projects r ⟨0, some 0⟩ none (some Context.empty)).2 _ compiled
  refine ⟨_, names, compiled, projects, ?_, again⟩
  have order : Text.ascending r.fields = ["a", "\uffff", "😀"] := by decide
  have written := projects.written (by decide)
  rw [lookup_source, compile_source compiled, order, if_neg (List.cons_ne_nil _ _)] at written
  have texts := Value.list.inj (Option.some.inj written)
  exact ((List.map_injective_iff.mpr fun _ _ => Value.str.inj) texts).symm

end PortableSearch.Request
