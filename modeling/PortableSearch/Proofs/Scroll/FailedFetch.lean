import PortableSearch.Proofs.Scroll.Transcript
import PortableSearch.Transport.Script

/-! A page that could not be fetched leaves no trace in a scroll. The call that needed it fails with
what the transport or the decoder said, the scroll stays as it was, and the next call sends the same
continuation again. A run therefore goes on as if its failed fetches had never been tried: without
the calls that failed, on a transport that gives only the other outcomes, all the rest is the
same. -/
namespace PortableSearch
variable {σ τ : Type}

/-- What came back in an exchange. -/
def Exchange.reaction : Exchange → Reaction
  | .search _ reaction => reaction
  | .page _ reaction => reaction

namespace Scroll

/-- The fault is that of a page that could not be fetched: its continuation failed, or what came
back cannot be decoded. -/
def Fault.isFetch : Fault → Bool
  | .transport _ | .malformed _ => true
  | .exhausted | .tooManyPages => false

/-- One call of a run, with its answer and what was exchanged for it. -/
structure Turn where
  call : Call
  answer : Except Fault Answer
  exchanged : List Exchange

namespace Turn

/-- The call failed because a page could not be fetched. -/
def failedFetch (turn : Turn) : Bool :=
  match turn.answer with
  | .error fault => fault.isFetch
  | .ok _ => false

/-- The outcomes of the transport that the call used up. -/
def outcomes (turn : Turn) : List Reaction := turn.exchanged.map Exchange.reaction

end Turn

/-- The calls of a run, one after the other. -/
def turns (t : Transport σ) (s : Scroll) (w : σ) : List Call → List Turn
  | [] => []
  | c :: calls =>
    ⟨c, (s.perform t w c).1, s.transcript t w [c]⟩ ::
      turns t (s.perform t w c).2.1 (s.perform t w c).2.2 calls

theorem turns_answer (t : Transport σ) (s : Scroll) (w : σ) (calls : List Call) :
    (s.turns t w calls).map Turn.answer = (s.performAll t w calls).1 := by
  induction calls generalizing s w with
  | nil => rfl
  | cons c calls ih => rw [turns, List.map_cons, ih, performAll]

theorem turns_exchanged (t : Transport σ) (s : Scroll) (w : σ) (calls : List Call) :
    (s.turns t w calls).flatMap Turn.exchanged = s.transcript t w calls := by
  induction calls generalizing s w with
  | nil => rfl
  | cons c calls ih => rw [turns, List.flatMap_cons, ih, ← transcript_cons]

/-- Whether a hit is left, and the scroll afterwards, depend on the transport only through what
comes back from it. -/
theorem hasNext_same {t : Transport σ} {t' : Transport τ} {s : Scroll} {w : σ} {w' : τ}
    (same : s.asked t w = s.asked t' w') :
    (s.hasNext t w).1 = (s.hasNext t' w').1 ∧ (s.hasNext t w).2.1 = (s.hasNext t' w').2.1 := by
  simp only [hasNext]
  cases request : s.request? with
  | none => exact ⟨rfl, rfl⟩
  | some c =>
    have came : (t.resume c w).1 = (t'.resume c w').1 := by simpa [asked, request] using same
    simp only [came]
    cases resultOf (t'.resume c w').1 <;> exact ⟨rfl, rfl⟩

theorem next_same {t : Transport σ} {t' : Transport τ} {s : Scroll} {w : σ} {w' : τ}
    (same : s.asked t w = s.asked t' w') :
    (s.next t w).1 = (s.next t' w').1 ∧ (s.next t w).2.1 = (s.next t' w').2.1 := by
  obtain ⟨answer, after⟩ := hasNext_same same
  simp only [next]
  generalize s.hasNext t w = looked at answer after ⊢
  generalize s.hasNext t' w' = looked' at answer after ⊢
  obtain ⟨_ | _, left, _⟩ := looked <;> obtain ⟨_ | _, left', _⟩ := looked' <;> cases answer <;>
    cases after
  · exact ⟨rfl, rfl⟩
  · cases queue : left.queue <;> simp [queue]

/-- Giving out a hit leaves the transport as looking for one does. -/
theorem next_transport (t : Transport σ) (s : Scroll) (w : σ) :
    (s.next t w).2.2 = (s.hasNext t w).2.2 := by
  simp only [next]
  generalize s.hasNext t w = looked
  obtain ⟨_ | _, left, _⟩ := looked
  · rfl
  · cases queue : left.queue <;> simp [queue]

/-- A call that failed because a page could not be fetched has sent one continuation, failed with
what came back, and changed nothing but the transport. -/
theorem perform_failed {t : Transport σ} {s : Scroll} {w : σ} {c : Call} {fault : Fault}
    (single : ∀ pages, c ≠ .drain pages) (failed : (s.perform t w c).1 = .error fault)
    (fetch : fault.isFetch = true) : ∃ request, s.request? = some request ∧
      resultOf (t.resume request w).1 = .error fault ∧ (s.perform t w c).2.1 = s ∧
      (s.perform t w c).2.2 = (t.resume request w).2 := by
  -- Both calls look for a hit first and pass on the fault of the look with all that it left.
  have looked : (s.hasNext t w).1 = .error fault ∧
      (s.perform t w c).2 = (s.hasNext t w).2 := by
    cases c with
    | hasNext =>
      refine ⟨?_, rfl⟩
      simp only [perform] at failed
      cases told : (s.hasNext t w).1 <;> rw [told] at failed <;> cases failed
      rfl
    | next =>
      simp only [perform, next] at failed ⊢
      generalize s.hasNext t w = looked at failed ⊢
      obtain ⟨_ | _, left, _⟩ := looked
      · cases failed
        exact ⟨rfl, rfl⟩
      · cases queue : left.queue <;> simp only [queue] at failed <;> cases failed
        cases fetch
    | drain pages => exact absurd rfl (single pages)
  rw [looked.2]
  have answer := looked.1
  simp only [hasNext] at answer ⊢
  cases request : s.request? with
  | none =>
    simp only [request] at answer
    cases answer
  | some c =>
    simp only [request] at answer ⊢
    cases came : resultOf (t.resume c w).1 <;> simp only [came] at answer <;> cases answer
    exact ⟨c, rfl, came, rfl, rfl⟩

theorem transcript_single (t : Transport σ) (s : Scroll) (w : σ) {c : Call}
    (single : ∀ pages, c ≠ .drain pages) : s.transcript t w [c] = s.asked t w := by
  cases c with
  | hasNext => exact transcript_hasNext t s w
  | next => exact transcript_next t s w
  | drain pages => exact absurd rfl (single pages)

theorem perform_same {t : Transport σ} {t' : Transport τ} {s : Scroll} {w : σ} {w' : τ} {c : Call}
    (single : ∀ pages, c ≠ .drain pages) (same : s.asked t w = s.asked t' w') :
    (s.perform t w c).1 = (s.perform t' w' c).1 ∧
      (s.perform t w c).2.1 = (s.perform t' w' c).2.1 := by
  cases c with
  | hasNext =>
    obtain ⟨answer, after⟩ := hasNext_same same
    exact ⟨congrArg (Except.map Answer.isLeft) answer, after⟩
  | next =>
    obtain ⟨answer, after⟩ := next_same same
    exact ⟨congrArg (Except.map Answer.hit) answer, after⟩
  | drain pages => exact absurd rfl (single pages)

section Replay
variable (initial : Reaction) (more : List Reaction)

/-- A script that begins with what once came back gives the same back again. -/
theorem asked_script (t : Transport σ) (s : Scroll) (w : σ) (calls : List Value) :
    s.asked Script.transport ⟨initial, (s.asked t w).map Exchange.reaction ++ more, calls⟩ =
      s.asked t w := by
  simp only [asked]
  cases s.request? with
  | none => rfl
  | some c => rfl

/-- A call uses up in a script what it once used up. -/
theorem perform_script (t : Transport σ) (s : Scroll) (w : σ) (calls : List Value) {c : Call}
    (single : ∀ pages, c ≠ .drain pages) : ∃ calls',
    s.perform Script.transport ⟨initial, (s.asked t w).map Exchange.reaction ++ more, calls⟩ c =
      ((s.perform t w c).1, (s.perform t w c).2.1, ⟨initial, more, calls'⟩) := by
  have same := asked_script initial more t s w calls
  obtain ⟨answer, after⟩ := perform_same single same
  have left : ∃ calls', (s.perform Script.transport
      ⟨initial, (s.asked t w).map Exchange.reaction ++ more, calls⟩ c).2.2 =
        ⟨initial, more, calls'⟩ := by
    have looked : ∃ calls', (s.hasNext Script.transport
        ⟨initial, (s.asked t w).map Exchange.reaction ++ more, calls⟩).2.2 =
          ⟨initial, more, calls'⟩ := by
      simp only [hasNext, asked]
      cases s.request? with
      | none => exact ⟨calls, rfl⟩
      | some request =>
        refine ⟨calls ++ [Script.pageRecord request], ?_⟩
        simp only [Option.map_some, Option.toList_some, List.map_cons, List.map_nil,
          List.cons_append, List.nil_append, Script.transport, Script.answerPage,
          Exchange.reaction]
        cases resultOf (t.resume request w).1 <;> rfl
    cases c with
    | hasNext => exact looked
    | next =>
      obtain ⟨calls', used⟩ := looked
      exact ⟨calls', (next_transport _ s _).trans used⟩
    | drain pages => exact absurd rfl (single pages)
  obtain ⟨calls', used⟩ := left
  exact ⟨calls', Prod.ext answer (Prod.ext after used)⟩

/-- Without the calls whose fetch failed, on a script of the outcomes of the others, a run takes
the same turns, ends with the same scroll and uses up the whole script. -/
theorem turns_without_failed (t : Transport σ) (s : Scroll) (w : σ) {calls : List Call}
    (single : ∀ pages, .drain pages ∉ calls) (asked : List Value) :
    let kept := (s.turns t w calls).filter fun turn => !turn.failedFetch
    let script : Script := ⟨initial, kept.flatMap Turn.outcomes, asked⟩
    let again := s.performAll Script.transport script (kept.map Turn.call)
    s.turns Script.transport script (kept.map Turn.call) = kept ∧
      again.2.1 = (s.performAll t w calls).2.1 ∧ again.2.2.pages = [] := by
  induction calls generalizing s w asked with
  | nil => exact ⟨rfl, rfl, rfl⟩
  | cons c calls ih =>
    have first : ∀ pages, c ≠ .drain pages := fun pages same =>
      single pages (same ▸ List.mem_cons_self)
    have rest : ∀ pages, .drain pages ∉ calls := fun pages inside =>
      single pages (List.mem_cons_of_mem _ inside)
    simp only [turns, performAll]
    cases fate : Turn.failedFetch ⟨c, (s.perform t w c).1, s.transcript t w [c]⟩ with
    | true =>
      -- The call left the scroll as it was, so the rest of the run starts where it started.
      have stayed : (s.perform t w c).2.1 = s := by
        simp only [Turn.failedFetch] at fate
        cases answer : (s.perform t w c).1 with
        | ok _ => simp [answer] at fate
        | error fault =>
          simp only [answer] at fate
          obtain ⟨_, _, _, stayed, _⟩ := perform_failed first answer fate
          exact stayed
      rw [List.filter_cons_of_neg (by simp [fate]), stayed]
      exact ih s (s.perform t w c).2.2 rest asked
    | false =>
      rw [List.filter_cons_of_pos (by simp [fate])]
      simp only [List.map_cons, List.flatMap_cons, Turn.outcomes, transcript_single t s w first]
      generalize later : ((s.perform t w c).2.1.turns t (s.perform t w c).2.2 calls).filter
        (fun turn => !turn.failedFetch) = kept
      have again := asked_script initial (kept.flatMap Turn.outcomes) t s w asked
      obtain ⟨asked', step⟩ :=
        perform_script initial (kept.flatMap Turn.outcomes) t s w asked first
      have hyp := ih (s.perform t w c).2.1 (s.perform t w c).2.2 rest asked'
      simp only [later] at hyp
      simp only [turns, performAll]
      rw [step, transcript_single _ s _ first, again]
      exact ⟨congrArg _ hyp.1, hyp.2⟩

end Replay

/-- Wherever a call of a run fails because a page could not be fetched: it has sent one continuation
and fails with what came back for it, the scroll is the same before and after, and a further call
sends the same continuation again. And without all calls that failed so, on a script of the outcomes
that the other calls had, the run gives the same answers from the same exchanges and ends with the
same scroll. The run is one of single calls, which a drain is made of (`exists_single_calls`). -/
theorem failed_fetch_invisible (t : Transport σ) (s : Scroll) (w : σ) (calls : List Call)
    (single : ∀ pages, .drain pages ∉ calls) (initial : Reaction) :
    (∀ earlier c later, calls = earlier ++ c :: later →
      let before := s.performAll t w earlier
      let failed := before.2.1.perform t before.2.2 c
      ∀ fault, failed.1 = .error fault → fault.isFetch = true → ∃ request reaction,
        before.2.1.transcript t before.2.2 [c] = [.page request reaction] ∧
        resultOf reaction = .error fault ∧ failed.2.1 = before.2.1 ∧
        ∀ further ∈ [Call.hasNext, Call.next], ∃ reaction',
          failed.2.1.transcript t failed.2.2 [further] = [.page request reaction']) ∧
    (let kept := (s.turns t w calls).filter fun turn => !turn.failedFetch
      let script : Script := ⟨initial, kept.flatMap Turn.outcomes, []⟩
      let again := s.performAll Script.transport script (kept.map Turn.call)
      again.1 = kept.map Turn.answer ∧ again.2.1 = (s.performAll t w calls).2.1 ∧
        s.transcript Script.transport script (kept.map Turn.call) =
          kept.flatMap Turn.exchanged) := by
  refine ⟨?_, ?_⟩
  · intro earlier c later split before failed fault answer fetch
    have one : ∀ pages, c ≠ .drain pages := fun pages same =>
      single pages (by rw [split, same]; simp)
    obtain ⟨request, needed, came, stayed, _⟩ := perform_failed one answer fetch
    have asks : ∀ w', before.2.1.asked t w' = [.page request (t.resume request w').1] :=
      fun w' => by rw [asked, needed]; rfl
    refine ⟨request, (t.resume request before.2.2).1, ?_, came, stayed, ?_⟩
    · rw [transcript_single t _ _ one, asks]
    · intro further either
      refine ⟨(t.resume request failed.2.2).1, ?_⟩
      have other : ∀ pages, further ≠ .drain pages := by
        rintro pages rfl
        simp at either
      rw [transcript_single t _ _ other, stayed, asks]
  · intro kept script again
    obtain ⟨same, final, _⟩ := turns_without_failed initial t s w single []
    refine ⟨?_, final, ?_⟩
    · rw [← turns_answer, same]
    · rw [← turns_exchanged, same]

/-- A hit to start with; then a continuation that fails, a reply that cannot be decoded, and a page
with a hit. Without the two calls that failed it takes one page to give out the same hits. -/
theorem failed_fetches_invisible_between_hits :
    let hit (id : String) : Reply.Hit := ⟨none, none, some id, none, none, none, []⟩
    let s : Scroll := ⟨"1m", [hit "a"], some "s0"⟩
    let page : Value := .obj [("took", .int 1), ("hits", .obj [("total", .int 2),
      ("hits", .list [.obj [("_id", .str "b")]])])]
    let slow : Reaction := .error (.timeout "slow")
    let script : Script := ⟨slow, [slow, .ok (.data (.obj [])), .ok (.data page)], []⟩
    let calls : List Call := [.next, .next, .hasNext, .next]
    let kept := (s.turns Script.transport script calls).filter fun turn => !turn.failedFetch
    let again := s.performAll Script.transport ⟨slow, kept.flatMap Turn.outcomes, []⟩
      (kept.map Turn.call)
    (∀ pages, .drain pages ∉ calls) ∧
    (s.turns Script.transport script calls).map Turn.failedFetch = [false, true, true, false] ∧
    kept.flatMap Turn.outcomes = [.ok (.data page)] ∧
    again.1 = kept.map Turn.answer ∧
    again.2.1 = (s.performAll Script.transport script calls).2.1 := by
  intro hit s page slow script calls kept again
  have single : ∀ pages, .drain pages ∉ calls := by simp [calls]
  obtain ⟨-, answers, final, -⟩ :=
    failed_fetch_invisible Script.transport s script calls single slow
  exact ⟨single, rfl, rfl, answers, final⟩

end Scroll
end PortableSearch
