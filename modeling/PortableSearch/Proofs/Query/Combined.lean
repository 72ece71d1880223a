import PortableSearch.Query.Compile
import PortableSearch.Proofs.Outcome

/-! Queries that combine others. Such a query is written as a boolean object with one list, in which
the objects of the combined queries stand in their order. -/
namespace PortableSearch.Query
open Engine (Clause)

/-- The list of a boolean object that a query is written as, and what it combines. -/
def combined? : Query → Option (String × List Query)
  | all of => some ("must", of)
  | any of => some ("should", of)
  | none of => some ("must_not", of)
  | _ => Option.none

theorem bodies_eq (clauses : List Clause) : Clause.bodies clauses = clauses.map Clause.body := by
  induction clauses with
  | nil => rfl
  | cons c cs ih => rw [Clause.bodies, ih, List.map_cons]

theorem compileAll_eq (timeZone : Option String) (qs : List Query) :
    compileAll timeZone qs = qs.mapM (compile timeZone) := by
  induction qs with
  | nil => rfl
  | cons q qs ih => rw [compileAll, List.mapM_cons, ih]

/-- Lists without clauses are not written, so the object has no list but the one. -/
theorem compile_combined (timeZone : Option String) {q : Query} {list : String} {of : List Query}
    (combined : q.combined? = some (list, of)) :
    (q.compile timeZone).map Clause.body = (compileAll timeZone of).map fun clauses =>
      .obj [("bool", .obj (Clause.clauseList list (Clause.bodies clauses)))] := by
  cases q with
  | all | any | none =>
    cases combined
    rw [compile]
    cases compileAll timeZone of with
    | error fault => rfl
    | ok clauses =>
      simp [bind, Except.bind, pure, Except.pure, Except.map, Clause.body, Clause.single,
        Clause.bodies, Clause.clauseList]
  | _ => cases combined

theorem combined_body {timeZone : Option String} {q : Query} {clause : Clause} {list : String}
    {of : List Query} (compiled : q.compile timeZone = .ok clause)
    (combined : q.combined? = some (list, of)) :
    ∃ clauses, compileAll timeZone of = .ok clauses ∧
      clause.body = .obj [("bool", .obj (Clause.clauseList list (Clause.bodies clauses)))] := by
  have whole := compile_combined timeZone combined
  rw [compiled] at whole
  obtain ⟨clauses, each, body⟩ := map_ok.mp whole.symm
  exact ⟨clauses, each, body.symm⟩

end PortableSearch.Query
