import PortableSearch.Query.Compile
import PortableSearch.Proofs.Outcome

/-! Why a query has no clause. A query of an unknown kind has none, wherever it stands in another
query, and of several the first is named: a query before what it combines, and that from left to
right. -/
namespace PortableSearch.Query

mutual

/-- A query and all queries in it, each before what it combines. -/
def parts : Query → List Query
  | all of => all of :: partsOfEach of
  | any of => any of :: partsOfEach of
  | none of => none of :: partsOfEach of
  | q => [q]

def partsOfEach : List Query → List Query
  | [] => []
  | q :: qs => parts q ++ partsOfEach qs

end

/-- What a query itself fails with. -/
inductive FailsWith : Query → UnsupportedKind → Prop
  | unsupported (kind : String) : FailsWith (.other kind) ⟨kind⟩

/-- The fault of a query itself. -/
def ownFault? : Query → Option UnsupportedKind
  | other kind => some ⟨kind⟩
  | _ => Option.none

theorem ownFault?_eq_some (q : Query) (fault : UnsupportedKind) :
    q.ownFault? = some fault ↔ q.FailsWith fault := by
  constructor
  · intro found
    cases q <;> cases found
    exact .unsupported _
  · rintro ⟨kind⟩
    rfl

mutual

/-- By induction on the query: what combines others does not fail itself, so that its first fault
is that of its parts. -/
theorem faultOf_compile (timeZone : Option String) (q : Query) :
    faultOf (q.compile timeZone) = q.parts.findSome? ownFault? := by
  cases q with
  | all of | any of | none of =>
    refine Eq.trans ?_ (faultOf_compileAll timeZone of)
    rw [compile]
    cases compileAll timeZone of <;> rfl
  | presence field expected => cases expected <;> rfl
  | _ => rfl

theorem faultOf_compileAll (timeZone : Option String) (qs : List Query) :
    faultOf (compileAll timeZone qs) = (partsOfEach qs).findSome? ownFault? := by
  cases qs with
  | nil => rfl
  | cons q qs =>
    have rest : ∀ clause, faultOf (compileAll timeZone qs >>= fun clauses =>
        pure (clause :: clauses)) = (partsOfEach qs).findSome? ownFault? := by
      intro clause
      rw [← faultOf_compileAll timeZone qs]
      cases compileAll timeZone qs <;> rfl
    rw [compileAll, faultOf_bind fun clause _ => rest clause, faultOf_compile timeZone q,
      partsOfEach, List.findSome?_append]

end

end PortableSearch.Query
