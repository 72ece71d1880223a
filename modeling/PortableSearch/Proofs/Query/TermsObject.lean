import PortableSearch.Proofs.Request.Places

/-! The object of a list of terms, wherever it stands in a query. It tells the field and the texts,
unless the field has the name of the boost: there the boost, which is never set, takes the place of
the terms. -/
namespace PortableSearch
open Engine (Clause)
open Shape (Step)

namespace Query
variable {field other : String} {values others : List Value}

/-- The object that a list of terms is written as. -/
def termsObject (field : String) (values : List Value) : Value :=
  .obj [("terms", .obj (if field = "boost" then []
    else [(field, .list (values.map fun v => .str (termText v)))]))]

theorem terms_compile (timeZone : Option String) (field : String) (values : List Value) :
    ∃ clause, (Query.terms field values).compile timeZone = .ok clause ∧
      clause.body = termsObject field values := by
  refine ⟨_, rfl, ?_⟩
  rw [Clause.body, termsObject, List.map_map]
  by_cases boost : field = "boost"
  · rw [if_pos boost, boost]
    rfl
  · rw [if_neg boost]
    simp [Clause.single, Members.put, boost, Members.compact, Clause.doubles, Value.ofOption]

theorem termsObject_eq_iff : termsObject field values = termsObject other others ↔
    field = other ∧ (field = "boost" ∨ values.map termText = others.map termText) := by
  have texts (vs : List Value) :
      vs.map (fun v => Value.str (termText v)) = (vs.map termText).map Value.str := by
    rw [List.map_map]
    rfl
  have written (field : String) (vs : List Value) : termsObject field vs =
      .obj [("terms", .obj (if field = "boost" then []
        else [(field, .list ((vs.map termText).map Value.str))]))] := by
    rw [termsObject, texts]
  rw [written, written]
  constructor
  · intro same
    by_cases boost : field = "boost"
    · by_cases boost' : other = "boost"
      · exact ⟨boost.trans boost'.symm, .inl boost⟩
      · simp [boost, boost'] at same
    · by_cases boost' : other = "boost"
      · simp [boost, boost'] at same
      · simp only [if_neg boost, if_neg boost', Value.obj.injEq, List.cons.injEq, Prod.mk.injEq,
          Value.list.injEq, true_and, and_true] at same
        obtain ⟨rfl, same⟩ := same
        exact ⟨rfl, .inr (List.map_injective_iff.mpr (fun _ _ => Value.str.inj) same)⟩
  · rintro ⟨rfl, boost | same⟩
    · simp only [if_pos boost]
    · rw [same]

end Query

section At
variable {u v : Value} {path : List Step} {name other : String}

theorem Value.At.here_eq (found : u.At [] v) : v = u := by
  cases found
  rfl

theorem Value.At.only_member (found : (Value.obj [(name, u)]).At (.name other :: path) v) :
    u.At path v := by
  cases found with
  | member inside rest =>
    cases List.mem_singleton.mp inside
    exact rest

theorem Value.At.nth_item {vs : List Value} {i : Nat}
    (found : (Value.list vs).At (.index i :: path) v) (there : vs[i]? = some u) : u.At path v := by
  cases found with
  | item there' rest =>
    cases there.symm.trans there'
    exact rest

end At

namespace Query

/-- No other object stands at the place of a query: an object that combines queries has one list,
and each of its items is the object of one of them. -/
theorem Place.unique {timeZone : Option String} {q p : Query} {path : List Step}
    (place : q.Place path p) {clause part : Clause} (compiled : q.compile timeZone = .ok clause)
    (own : p.compile timeZone = .ok part) {v : Value} (found : clause.body.At path v) :
    v = part.body := by
  induction place generalizing clause with
  | self =>
    cases compiled.symm.trans own
    exact found.here_eq
  | @combined _ _ _ _ _ i _ combined item _ ih =>
    obtain ⟨clauses, each, body⟩ := combined_body compiled combined
    rw [compileAll_eq] at each
    obtain ⟨inner, innerCompiled, there⟩ := mapM_ok_getElem? each item
    have item' : (Clause.bodies clauses)[i]? = some inner.body := by simp [bodies_eq, there]
    -- The list is written, because it has this object.
    have filled : (Clause.bodies clauses).isEmpty = false := by
      rw [List.isEmpty_eq_false_iff]
      exact List.ne_nil_of_mem (List.mem_of_getElem? item')
    rw [body, Clause.clauseList, filled] at found
    exact ih innerCompiled own (found.only_member.only_member.nth_item item')

/-- At the place of a list of terms stands its object, and no other. -/
theorem Place.terms_at {timeZone : Option String} {q : Query} {path : List Step} {clause : Clause}
    (place : q.Place path (.terms field values)) (compiled : q.compile timeZone = .ok clause)
    {v : Value} : clause.body.At path v ↔ v = termsObject field values := by
  obtain ⟨part, own, there⟩ := compile_place place compiled
  obtain ⟨part', own', body⟩ := terms_compile timeZone field values
  cases own.symm.trans own'
  constructor
  · intro found
    rw [place.unique compiled own found, body]
  · rintro rfl
    rwa [body] at there

/-- A list of terms is written as an object that tells its field and its texts, in order, and at the
place of the list in a query stands that object and no other; queries with lists of other terms at
one place are written as different objects. The field of the name of the boost is the exception: its
object has no members whatever the terms. -/
theorem terms_told (timeZone : Option String) (field : String) (values : List Value) :
    (∃ clause, (Query.terms field values).compile timeZone = .ok clause ∧
      clause.body = termsObject field values) ∧
    (∀ (q : Query) (path : List Step) (clause : Clause), q.Place path (.terms field values) →
      q.compile timeZone = .ok clause →
        ∀ v, clause.body.At path v ↔ v = termsObject field values) ∧
    (∀ other others, termsObject field values = termsObject other others ↔
      field = other ∧ (field = "boost" ∨ values.map termText = others.map termText)) ∧
    ∀ (timeZone' : Option String) (q q' : Query) (path : List Step) (other : String)
      (others : List Value) (clause clause' : Clause),
      q.Place path (.terms field values) → q'.Place path (.terms other others) →
      q.compile timeZone = .ok clause → q'.compile timeZone' = .ok clause' →
      clause.body = clause'.body →
        field = other ∧ (field = "boost" ∨ values.map termText = others.map termText) := by
  refine ⟨terms_compile timeZone field values, fun _ _ _ place compiled _ =>
    place.terms_at compiled, fun _ _ => termsObject_eq_iff, ?_⟩
  intro timeZone' q q' path other others clause clause' place place' compiled compiled' same
  have here := (place.terms_at compiled).mpr rfl
  rw [same, place'.terms_at compiled'] at here
  exact termsObject_eq_iff.mp here

/-- Lists of one field in the second of two queries that are combined, below another combination. -/
theorem tags_told :
    let first : Query := .all [.matchAll, .none [.terms "tags" [.bool true, .null]]]
    let second : Query := .all [.matchAll, .none [.terms "tags" [.str "true"]]]
    let path : List Step :=
      [.name "bool", .name "must", .index 1, .name "bool", .name "must_not", .index 0]
    first.Place path (.terms "tags" [.bool true, .null]) ∧
    second.Place path (.terms "tags" [.str "true"]) ∧
    ∃ clause clause', first.compile Option.none = .ok clause ∧
      second.compile Option.none = .ok clause' ∧
      clause.body.At path (.obj [("terms", .obj [("tags", .list [.str "true", .str "null"])])]) ∧
      clause.body ≠ clause'.body := by
  intro first second path
  obtain ⟨-, stands, -, told⟩ := terms_told Option.none "tags" [.bool true, .null]
  have place : first.Place path (.terms "tags" [.bool true, .null]) :=
    .combined rfl rfl (.combined rfl rfl .self)
  have place' : second.Place path (.terms "tags" [.str "true"]) :=
    .combined rfl rfl (.combined rfl rfl .self)
  obtain ⟨clause, compiled⟩ : ∃ clause, first.compile Option.none = .ok clause := ⟨_, rfl⟩
  obtain ⟨clause', compiled'⟩ : ∃ clause, second.compile Option.none = .ok clause := ⟨_, rfl⟩
  refine ⟨place, place', clause, clause', compiled, compiled', ?_, fun same => ?_⟩
  · exact (stands _ _ _ place compiled _).mpr (by simp [termsObject, termText])
  obtain ⟨-, boost | texts⟩ := told _ _ _ _ _ _ _ _ place place' compiled compiled' same
  · simp at boost
  · simp at texts

/-- Two lists of terms for the field of that name, with nothing left of them. -/
theorem boost_not_told :
    ∃ clause clause', (Query.terms "boost" [.str "a"]).compile Option.none = .ok clause ∧
      (Query.terms "boost" [.str "b", .int 1]).compile Option.none = .ok clause' ∧
      clause.body = .obj [("terms", .obj [])] ∧ clause'.body = .obj [("terms", .obj [])] ∧
      [Value.str "a"].map termText ≠ [Value.str "b", .int 1].map termText :=
  ⟨_, _, rfl, rfl, rfl, rfl, by simp⟩

end Query

end PortableSearch
