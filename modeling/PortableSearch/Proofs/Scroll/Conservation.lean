import PortableSearch.Proofs.Scroll.Transcript
import PortableSearch.Transport.Script

/-! No hit of a scroll is lost, repeated or moved. What a scroll has given out, followed by what it
still holds, is the initial hits followed by the hits of every page that arrived, whatever the
transport answers and however the calls are mixed. -/
namespace PortableSearch.Scroll
variable {σ : Type}

/-- The hits that an answer gives out. -/
def handedOut : Except Fault Answer → List Reply.Hit
  | .ok (.hit h) => [h]
  | .ok (.hits hs) => hs
  | _ => []

/-- The hits that exchanges brought. -/
def arrived (record : List Exchange) : List Reply.Hit :=
  (pages record).flatMap fun page => page.hits.hits

theorem arrived_append (first second : List Exchange) :
    arrived (first ++ second) = arrived first ++ arrived second := by
  simp only [arrived, pages_append, List.flatMap_append]

/-- Looking for a hit queues exactly what arrives. A page replaces the queue, which is only sound
because nothing is fetched while a hit is left. -/
theorem hasNext_queue (t : Transport σ) (s : Scroll) (w : σ) :
    (s.hasNext t w).2.1.queue = s.queue ++ arrived (s.asked t w) := by
  have look := s.hasNext_look t w
  generalize s.hasNext t w = result at look ⊢
  generalize s.asked t w = news at look ⊢
  cases look with
  | queued | ended => simp [arrived, pages]
  | failed _ _ came => simp [arrived, pages_failed came]
  | fetched empty _ came => simp [arrived, pages_fetched came, receive, empty]

theorem next_queue (t : Transport σ) (s : Scroll) (w : σ) :
    handedOut ((s.next t w).1.map .hit) ++ (s.next t w).2.1.queue =
      s.queue ++ arrived (s.asked t w) := by
  rw [← hasNext_queue]
  simp only [next]
  generalize s.hasNext t w = looked
  obtain ⟨_ | left, after, w'⟩ := looked
  · rfl
  · cases queue : after.queue <;> simp [handedOut, queue, Except.map]

/-- One call gives out hits from the front of the queue and puts at its end what arrives. -/
theorem perform_conserves (t : Transport σ) (s : Scroll) (w : σ) {c : Call}
    (single : ∀ pages, c ≠ .drain pages) :
    handedOut (s.perform t w c).1 ++ (s.perform t w c).2.1.queue =
      s.queue ++ arrived (s.transcript t w [c]) := by
  cases c with
  | hasNext =>
    rw [transcript_hasNext, ← hasNext_queue]
    simp only [perform]
    generalize s.hasNext t w = looked
    obtain ⟨_ | left, after, w'⟩ := looked <;> rfl
  | next =>
    rw [transcript_next, ← next_queue]
    rfl
  | drain pages => exact absurd rfl (single pages)

theorem performAll_conserves (t : Transport σ) (s : Scroll) (w : σ) {calls : List Call}
    (single : ∀ pages, .drain pages ∉ calls) :
    (s.performAll t w calls).1.flatMap handedOut ++ (s.performAll t w calls).2.1.queue =
      s.queue ++ arrived (s.transcript t w calls) := by
  induction calls generalizing s w with
  | nil => simp [performAll, arrived, pages]
  | cons c calls ih =>
    have first := perform_conserves t s w (c := c) (fun pages h => single pages (by simp [h]))
    have rest := ih (s.perform t w c).2.1 (s.perform t w c).2.2
      (fun pages h => single pages (List.mem_cons_of_mem _ h))
    rw [transcript_cons, arrived_append, ← List.append_assoc, ← first, List.append_assoc, ← rest]
    simp [performAll]

/-- Whatever a transport answers to the continuations of a scroll, and in whatever order it is
asked whether a hit is left and for the next one: the hits given out, followed by those still
queued, are the hits of the initial reply followed by those of all pages fetched. -/
theorem hits_conserved (t : Transport σ) (w : σ) (keepAlive : String)
    (initial : Reply.SearchResult) (calls : List Call) (single : ∀ pages, .drain pages ∉ calls) :
    let run := (start keepAlive initial).performAll t w calls
    let fetched := pages ((start keepAlive initial).transcript t w calls)
    run.1.flatMap handedOut ++ run.2.1.queue =
      initial.hits.hits ++ fetched.flatMap fun page => page.hits.hits :=
  performAll_conserves t (start keepAlive initial) w single

/-- One hit to start with; then a continuation that fails, a reply that cannot be decoded, and a
page of two hits, of which one is given out. -/
theorem hits_conserved_over_failures :
    let hit (id : String) : Reply.Hit := ⟨none, none, some id, none, none, none, []⟩
    let initial : Reply.SearchResult :=
      ⟨1, false, ⟨1, 1, 0, []⟩, some "s0", ⟨3, none, [hit "a"]⟩, [], []⟩
    let page : Value := .obj [("took", .int 1), ("hits", .obj [("total", .int 3),
      ("hits", .list [.obj [("_id", .str "b")], .obj [("_id", .str "c")]])])]
    let script : Script :=
      ⟨.error (.timeout "slow"), [.error (.timeout "slow"), .ok (.data (.obj [])), .ok (.data page)], []⟩
    let calls : List Call := [.next, .next, .hasNext, .next]
    let run := (start "1m" initial).performAll Script.transport script calls
    let fetched := pages ((start "1m" initial).transcript Script.transport script calls)
    (∀ pages, .drain pages ∉ calls) ∧
    run.1.flatMap handedOut ++ run.2.1.queue =
      initial.hits.hits ++ (fetched.flatMap fun page => page.hits.hits) ∧
    (run.1.flatMap handedOut).map (·.id) = [some "a", some "b"] ∧
    run.2.1.queue.map (·.id) = [some "c"] := by
  intro hit initial page script calls run fetched
  have single : ∀ pages, .drain pages ∉ calls := by simp [calls]
  exact ⟨single, hits_conserved Script.transport script "1m" initial calls single, rfl, rfl⟩

end PortableSearch.Scroll
