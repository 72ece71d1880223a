import PortableSearch.Query.Compile

/-! The meaning of queries. The engine reads the objects of its query language by its rule for
boolean objects, and a portable query means what its parts mean. Compiling keeps the meaning: the
object that a query is written as holds of the same documents, whatever the other objects say. -/
namespace PortableSearch
universe u
variable {δ : Type u}

/-- What objects that are not boolean say of documents. -/
abbrev Interpretation (δ : Type u) := Value → δ → Bool

namespace Engine

/-- When a boolean object holds, given which of the clauses under each of its names hold: all of
those that must and that filter, none of those that must not, and, where none must or filter, one
of those that should, if there are any. -/
def combined (verdicts : List (String × List Bool)) : Bool :=
  let under (name : String) : List Bool := (verdicts.lookup name).getD []
  let required := verdicts.any fun v => v.1 = "must" || v.1 = "filter"
  (under "must").all id && (under "filter").all id && !(under "must_not").any id &&
    (required || (under "should").isEmpty || (under "should").any id)

mutual

/-- Whether an object of the query language holds of a document. -/
def holds (meaning : Interpretation δ) (d : δ) : Value → Bool
  | .obj [(name, .obj ms)] =>
    if name = "bool" then combined (memberVerdicts meaning d ms)
    else meaning (.obj [(name, .obj ms)]) d
  | v => meaning v d

/-- Which of the objects in a list hold; other values have none. -/
def listVerdicts (meaning : Interpretation δ) (d : δ) : Value → List Bool
  | .list vs => verdicts meaning d vs
  | _ => []

def verdicts (meaning : Interpretation δ) (d : δ) : List Value → List Bool
  | [] => []
  | v :: vs => holds meaning d v :: verdicts meaning d vs

def memberVerdicts (meaning : Interpretation δ) (d : δ) :
    List (String × Value) → List (String × List Bool)
  | [] => []
  | (name, v) :: ms => (name, listVerdicts meaning d v) :: memberVerdicts meaning d ms

end

variable (meaning : Interpretation δ) (d : δ)

theorem memberVerdicts_append (first second : List (String × Value)) :
    memberVerdicts meaning d (first ++ second) =
      memberVerdicts meaning d first ++ memberVerdicts meaning d second := by
  induction first with
  | nil => simp [memberVerdicts]
  | cons m first ih => simp [memberVerdicts, ih]

theorem verdicts_bodies (cs : List Clause) :
    verdicts meaning d (Clause.bodies cs) = cs.map fun c => holds meaning d c.body := by
  induction cs with
  | nil => rfl
  | cons c cs ih => simp [Clause.bodies, verdicts, ih]

theorem bodies_isEmpty (cs : List Clause) : (Clause.bodies cs).isEmpty = cs.isEmpty := by
  cases cs <;> rfl

/-- A list of clauses is written, and read back, under its name unless it is empty. -/
theorem memberVerdicts_clauseList (name : String) (cs : List Clause) :
    memberVerdicts meaning d (Clause.clauseList name (Clause.bodies cs)) =
      if cs.isEmpty then [] else [(name, cs.map fun c => holds meaning d c.body)] := by
  simp only [Clause.clauseList, bodies_isEmpty]
  split
  · rfl
  · simp [memberVerdicts, listVerdicts, verdicts_bodies]

/-- What the engine reads in a boolean clause, whichever of its lists are left out. -/
theorem holds_bool (must filter should mustNot : List Clause) :
    holds meaning d (Clause.bool must filter should mustNot).body =
      ((must.all fun c => holds meaning d c.body) && (filter.all fun c => holds meaning d c.body) &&
        !(mustNot.any fun c => holds meaning d c.body) &&
        (!must.isEmpty || !filter.isEmpty || should.isEmpty ||
          should.any fun c => holds meaning d c.body)) := by
  simp only [Clause.body, Clause.single, holds, if_true, memberVerdicts_append,
    memberVerdicts_clauseList]
  cases must <;> cases filter <;> cases should <;> cases mustNot <;>
    simp [combined, List.lookup_cons]

/-- Every other clause is written as an object that is not boolean. -/
theorem holds_leaf {c : Clause} (leaf : ∀ must filter should mustNot,
    c ≠ .bool must filter should mustNot) : holds meaning d c.body = meaning c.body d := by
  cases c with
  | bool must filter should mustNot => exact absurd rfl (leaf must filter should mustNot)
  | _ => simp [Clause.body, Clause.onField, Clause.single, holds]

end Engine

namespace Query

mutual

/-- The query is of known kinds throughout, and what it combines is not empty. -/
def isClosed : Query → Bool
  | all of | any of | none of => !of.isEmpty && areClosed of
  | other _ => false
  | _ => true

def areClosed : List Query → Bool
  | [] => true
  | q :: qs => isClosed q && areClosed qs

end

/-- Whether the object that a query is written as holds, where the object is not boolean. -/
def leafHolds (meaning : Interpretation δ) (context : Context) (d : δ) (q : Query) : Bool :=
  match q.compile context.timeZone with
  | .ok clause => meaning clause.body d
  | .error _ => false

mutual

/-- Whether a query holds of a document. -/
def holds (meaning : Interpretation δ) (context : Context) (d : δ) : Query → Bool
  | all of => (holdsEach meaning context d of).all id
  | any of => (holdsEach meaning context d of).any id
  | none of => !(holdsEach meaning context d of).any id
  | presence field false => !leafHolds meaning context d (presence field true)
  | q => leafHolds meaning context d q

def holdsEach (meaning : Interpretation δ) (context : Context) (d : δ) : List Query → List Bool
  | [] => []
  | q :: qs => holds meaning context d q :: holdsEach meaning context d qs

end

variable (meaning : Interpretation δ) (context : Context) (d : δ)

theorem holdsEach_isEmpty (qs : List Query) :
    (holdsEach meaning context d qs).isEmpty = qs.isEmpty := by
  cases qs <;> rfl

mutual

/-- By induction on the query. Only a query that combines others is written as a boolean object;
of these only the one under `should` needs that the list is not empty, since an object without
clauses holds of every document. -/
theorem compile_holds (q : Query) (closed : q.isClosed = true) :
    ∃ clause, q.compile context.timeZone = .ok clause ∧
      Engine.holds meaning d clause.body = q.holds meaning context d := by
  cases q with
  | all of =>
    simp only [isClosed, Bool.and_eq_true] at closed
    obtain ⟨clauses, compiled, same⟩ := compileAll_holds of closed.2
    refine ⟨.bool clauses [] [] [], by rw [compile, compiled]; rfl, ?_⟩
    rw [Engine.holds_bool, holds, ← same]
    simp [List.all_map, Function.comp_def]
  | any of =>
    simp only [isClosed, Bool.and_eq_true, Bool.not_eq_true'] at closed
    obtain ⟨clauses, compiled, same⟩ := compileAll_holds of closed.2
    have filled : clauses.isEmpty = false := by
      have empty := holdsEach_isEmpty meaning context d of
      rw [← same, List.isEmpty_map, closed.1] at empty
      exact empty
    refine ⟨.bool [] [] clauses [], by rw [compile, compiled]; rfl, ?_⟩
    rw [Engine.holds_bool, holds, ← same]
    simp [filled, List.any_map, Function.comp_def]
  | none of =>
    simp only [isClosed, Bool.and_eq_true] at closed
    obtain ⟨clauses, compiled, same⟩ := compileAll_holds of closed.2
    refine ⟨.bool [] [] [] clauses, by rw [compile, compiled]; rfl, ?_⟩
    rw [Engine.holds_bool, holds, ← same]
    simp [List.any_map, Function.comp_def]
  | presence field expected =>
    cases expected with
    | true => exact ⟨_, rfl, Engine.holds_leaf meaning d (by simp)⟩
    | false =>
      refine ⟨.bool [] [] [] [.present field], rfl, ?_⟩
      rw [Engine.holds_bool, holds, leafHolds, compile]
      simp [Engine.holds_leaf]
  | other kind => simp [isClosed] at closed
  | _ => exact ⟨_, rfl, Engine.holds_leaf meaning d (by simp)⟩

theorem compileAll_holds (qs : List Query) (closed : areClosed qs = true) :
    ∃ clauses, compileAll context.timeZone qs = .ok clauses ∧
      (clauses.map fun c => Engine.holds meaning d c.body) = holdsEach meaning context d qs := by
  cases qs with
  | nil => exact ⟨[], rfl, rfl⟩
  | cons q qs =>
    simp only [areClosed, Bool.and_eq_true] at closed
    obtain ⟨clause, compiled, same⟩ := compile_holds q closed.1
    obtain ⟨clauses, compiledAll, sameAll⟩ := compileAll_holds qs closed.2
    refine ⟨clause :: clauses, by rw [compileAll, compiled, compiledAll]; rfl, ?_⟩
    simp only [List.map_cons, same, sameAll, holdsEach]

end

/-- Compiling a query keeps its meaning: whatever objects that are not boolean mean, the engine
finds the compiled query true of the documents of which the query holds. -/
theorem compile_keeps_meaning (context : Context) {q : Query} (closed : q.isClosed = true) :
    ∃ clause, q.compile context.timeZone = .ok clause ∧
      ∀ (δ : Type u) (meaning : Interpretation δ) (d : δ),
        Engine.holds meaning d clause.body = q.holds meaning context d := by
  obtain ⟨clause, compiled, _⟩ :=
    compile_holds (fun _ (_ : PUnit.{u + 1}) => true) context PUnit.unit q closed
  refine ⟨clause, compiled, fun δ meaning d => ?_⟩
  obtain ⟨other, again, same⟩ := compile_holds meaning context d q closed
  cases compiled.symm.trans again
  exact same

/-- The documents that have the field `a` and not the field `b`, or that do not have `c`. -/
theorem nested_keeps_meaning :
    let context := Context.empty
    let q : Query := .any [.all [.presence "a" true, .none [.presence "b" true]],
      .presence "c" false]
    let meaning : Interpretation (List String) := fun v fields =>
      match v with
      | .obj [("exists", .obj [("field", .str field)])] => fields.contains field
      | _ => false
    q.isClosed = true ∧ ∃ clause, q.compile context.timeZone = .ok clause ∧
      Engine.holds meaning ["a", "c"] clause.body = true ∧
      Engine.holds meaning ["a", "b", "c"] clause.body = false ∧
      Engine.holds meaning ["b"] clause.body = true := by
  intro context q meaning
  obtain ⟨clause, compiled, same⟩ := compile_keeps_meaning context (q := q) rfl
  refine ⟨rfl, clause, compiled, ?_, ?_, ?_⟩
  · rw [same]; rfl
  · rw [same]; rfl
  · rw [same]; rfl

end Query

end PortableSearch
