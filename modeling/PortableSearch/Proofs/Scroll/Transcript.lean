import PortableSearch.Scroll.Session

/-! What a scroll asks of its transport. A recorded transport answers like the one beneath it and
keeps every request together with what came back, whichever operation sent it; the record is the
transcript of a run. Recording changes no answer, no scroll and no state of the transport. -/
namespace PortableSearch
variable {σ α : Type}

/-- A request to a transport, with what came back for it. -/
inductive Exchange where
  | search (call : SearchCall) (reaction : Reaction)
  | page (request : Continuation) (reaction : Reaction)

/-- The transport together with all that has been exchanged with it, the latest last. -/
def Transport.recorded (t : Transport σ) : Transport (σ × List Exchange) where
  search call w :=
    ((t.search call w.1).1, (t.search call w.1).2, w.2 ++ [.search call (t.search call w.1).1])
  resume c w := ((t.resume c w.1).1, (t.resume c w.1).2, w.2 ++ [.page c (t.resume c w.1).1])

namespace Scroll

/-- The page that an exchange brought: a reply came back and was decoded. -/
def page? : Exchange → Option Reply.SearchResult
  | .search .. => none
  | .page _ reaction => (resultOf reaction).toOption

/-- The pages that exchanges brought, in order. -/
def pages (record : List Exchange) : List Reply.SearchResult := record.filterMap page?

theorem pages_append (first second : List Exchange) :
    pages (first ++ second) = pages first ++ pages second :=
  List.filterMap_append

theorem pages_failed {c : Continuation} {reaction : Reaction} {fault : Fault}
    (came : resultOf reaction = .error fault) : pages [.page c reaction] = [] := by
  simp [pages, page?, came, Except.toOption]

theorem pages_fetched {c : Continuation} {reaction : Reaction} {page : Reply.SearchResult}
    (came : resultOf reaction = .ok page) : pages [.page c reaction] = [page] := by
  simp [pages, page?, came, Except.toOption]

/-- All that calls exchange with the transport. -/
def transcript (t : Transport σ) (s : Scroll) (w : σ) (calls : List Call) : List Exchange :=
  (s.performAll t.recorded (w, []) calls).2.2.2

/-- What looking for a further hit exchanges with the transport. -/
def asked (t : Transport σ) (s : Scroll) (w : σ) : List Exchange :=
  (s.request?.map fun c => .page c (t.resume c w).1).toList

/-- The ways in which a scroll can look for a further hit: the answer, the scroll and the transport
afterwards, and the exchanges. -/
inductive Look (t : Transport σ) (s : Scroll) (w : σ) :
    Except Fault Bool × Scroll × σ → List Exchange → Prop where
  | queued : s.queue ≠ [] → Look t s w (.ok true, s, w) []
  | ended : s.queue = [] → s.token = none → Look t s w (.ok false, s, w) []
  | failed {token fault} : s.queue = [] → s.token = some token →
      resultOf (t.resume ⟨s.keepAlive, token⟩ w).1 = .error fault →
      Look t s w (.error fault, s, (t.resume ⟨s.keepAlive, token⟩ w).2)
        [.page ⟨s.keepAlive, token⟩ (t.resume ⟨s.keepAlive, token⟩ w).1]
  | fetched {token page} : s.queue = [] → s.token = some token →
      resultOf (t.resume ⟨s.keepAlive, token⟩ w).1 = .ok page →
      Look t s w (.ok (!page.hits.hits.isEmpty), s.receive page,
        (t.resume ⟨s.keepAlive, token⟩ w).2)
        [.page ⟨s.keepAlive, token⟩ (t.resume ⟨s.keepAlive, token⟩ w).1]

/-- Looking for a further hit goes in one of these ways, and in no other. -/
theorem hasNext_look (t : Transport σ) (s : Scroll) (w : σ) :
    Look t s w (s.hasNext t w) (s.asked t w) := by
  obtain ⟨keepAlive, queue, token⟩ := s
  cases queue with
  | cons hit rest => exact .queued (by simp)
  | nil =>
    cases token with
    | none => exact .ended rfl rfl
    | some token =>
      cases came : resultOf (t.resume ⟨keepAlive, token⟩ w).1 with
      | error fault =>
        have look := Look.failed (t := t) (s := ⟨keepAlive, [], some token⟩) (w := w) rfl rfl came
        simpa [hasNext, asked, request?, came] using look
      | ok page =>
        have look := Look.fetched (t := t) (s := ⟨keepAlive, [], some token⟩) (w := w) rfl rfl came
        simpa [hasNext, asked, request?, came] using look

/-- The result of an operation, with a record beside the transport. -/
def withRecord (record : List Exchange) (r : α × Scroll × σ) :
    α × Scroll × σ × List Exchange :=
  (r.1, r.2.1, r.2.2, record)

theorem hasNext_recorded (t : Transport σ) (s : Scroll) (w : σ) (record : List Exchange) :
    s.hasNext t.recorded (w, record) = withRecord (record ++ s.asked t w) (s.hasNext t w) := by
  cases request : s.request? with
  | none => simp [hasNext, asked, withRecord, request]
  | some c =>
    cases came : resultOf (t.resume c w).1 <;>
      simp [hasNext, asked, withRecord, request, Transport.recorded, came]

theorem next_recorded (t : Transport σ) (s : Scroll) (w : σ) (record : List Exchange) :
    s.next t.recorded (w, record) = withRecord (record ++ s.asked t w) (s.next t w) := by
  simp only [next, hasNext_recorded]
  generalize s.hasNext t w = looked
  obtain ⟨_ | left, after, w'⟩ := looked
  · rfl
  · cases queue : after.queue <;> simp [withRecord, queue]

/-- Draining a scroll adds the same exchanges to every record. -/
theorem drainAfter_recorded (t : Transport σ) (pages : Nat) (given : List Reply.Hit) (s : Scroll)
    (w : σ) : ∃ news, ∀ record, drainAfter t.recorded pages given s (w, record) =
      withRecord (record ++ news) (drainAfter t pages given s w) := by
  induction pages generalizing given s w with
  | zero => exact ⟨[], fun record => by simp [drainAfter, withRecord]⟩
  | succ pages ih =>
    simp only [drainAfter, hasNext_recorded]
    generalize hasNext t { s with queue := [] } w = looked
    generalize asked t { s with queue := [] } w = asked
    obtain ⟨_ | left, after, w'⟩ := looked
    · exact ⟨asked, fun record => rfl⟩
    cases left with
    | false => exact ⟨asked, fun record => rfl⟩
    | true =>
      obtain ⟨news, later⟩ := ih (given ++ s.queue) after w'
      refine ⟨asked ++ news, fun record => ?_⟩
      simpa [withRecord] using later (record ++ asked)

theorem perform_recorded (t : Transport σ) (s : Scroll) (w : σ) (c : Call) :
    ∃ news, ∀ record, s.perform t.recorded (w, record) c =
      withRecord (record ++ news) (s.perform t w c) := by
  cases c with
  | hasNext => exact ⟨s.asked t w, fun record => by simp [perform, hasNext_recorded, withRecord]⟩
  | next => exact ⟨s.asked t w, fun record => by simp [perform, next_recorded, withRecord]⟩
  | drain pages =>
    obtain ⟨news, drained⟩ := drainAfter_recorded t pages [] s w
    exact ⟨news, fun record => by simp [perform, drain, drained, withRecord]⟩

/-- Recording leaves answers and states as they are and adds the transcript to the record. -/
theorem performAll_recorded (t : Transport σ) (s : Scroll) (w : σ) (record : List Exchange)
    (calls : List Call) : s.performAll t.recorded (w, record) calls =
      withRecord (record ++ s.transcript t w calls) (s.performAll t w calls) := by
  have adds : ∀ calls s w, ∃ news, ∀ record, performAll t.recorded s (w, record) calls =
      withRecord (record ++ news) (performAll t s w calls) := by
    intro calls
    induction calls with
    | nil => exact fun s w => ⟨[], fun record => by simp [performAll, withRecord]⟩
    | cons c calls ih =>
      intro s w
      obtain ⟨first, performed⟩ := perform_recorded t s w c
      obtain ⟨rest, continued⟩ := ih (s.perform t w c).2.1 (s.perform t w c).2.2
      refine ⟨first ++ rest, fun record => ?_⟩
      simp only [performAll, performed, withRecord, continued, List.append_assoc]
  obtain ⟨news, added⟩ := adds calls s w
  have recorded : s.transcript t w calls = news := by
    simp [transcript, added, withRecord]
  rw [recorded]
  exact added record

@[simp] theorem transcript_nil (t : Transport σ) (s : Scroll) (w : σ) :
    s.transcript t w [] = [] := rfl

@[simp] theorem transcript_hasNext (t : Transport σ) (s : Scroll) (w : σ) :
    s.transcript t w [.hasNext] = s.asked t w := by
  simp [transcript, performAll, perform, hasNext_recorded, withRecord]

@[simp] theorem transcript_next (t : Transport σ) (s : Scroll) (w : σ) :
    s.transcript t w [.next] = s.asked t w := by
  simp [transcript, performAll, perform, next_recorded, withRecord]

/-- The transcript of a run is that of its first call, then that of the rest from there on. -/
theorem transcript_cons (t : Transport σ) (s : Scroll) (w : σ) (c : Call) (calls : List Call) :
    s.transcript t w (c :: calls) = s.transcript t w [c] ++
      (s.perform t w c).2.1.transcript t (s.perform t w c).2.2 calls := by
  obtain ⟨news, performed⟩ := perform_recorded t s w c
  simp only [transcript, performAll, performed, withRecord, List.nil_append]
  rw [performAll_recorded]
  rfl

theorem transcript_append (t : Transport σ) (s : Scroll) (w : σ) (first second : List Call) :
    s.transcript t w (first ++ second) = s.transcript t w first ++
      (s.performAll t w first).2.1.transcript t (s.performAll t w first).2.2 second := by
  induction first generalizing s w with
  | nil => rfl
  | cons c first ih =>
    rw [List.cons_append, transcript_cons, ih, ← List.append_assoc, ← transcript_cons]
    rfl

/-! Drains as runs of single calls -/

theorem performAll_queue (t : Transport σ) (s : Scroll) (w : σ) (queue : List Reply.Hit)
    (calls : List Call) :
    (performAll t { s with queue } w (List.replicate queue.length .next ++ calls)).2 =
      (performAll t { s with queue := [] } w calls).2 := by
  induction queue with
  | nil => rfl
  | cons hit queue ih => exact ih

theorem drainAfter_single (t : Transport σ) (pages : Nat) (given : List Reply.Hit) (s : Scroll)
    (w : σ) : ∃ calls, (∀ pages, .drain pages ∉ calls) ∧
      (s.performAll t w calls).2 = (drainAfter t pages given s w).2 := by
  induction pages generalizing given s w with
  | zero => exact ⟨[], nofun, rfl⟩
  | succ pages ih =>
    -- The hits in the queue are taken one by one; the call after them fetches the page.
    have taken : ∀ calls, (s.performAll t w (List.replicate s.queue.length .next ++ calls)).2 =
        (performAll t { s with queue := [] } w calls).2 :=
      performAll_queue t s w s.queue
    have through (calls : List Call) (single : ∀ pages, .drain pages ∉ calls) (pages : Nat) :
        .drain pages ∉ List.replicate s.queue.length Call.next ++ .hasNext :: calls := by
      simpa [List.mem_replicate] using single pages
    rw [drainAfter]
    cases looked : ({ s with queue := [] } : Scroll).hasNext t w with
    | mk answer after =>
      have further : ∀ calls, (s.performAll t w
          (List.replicate s.queue.length .next ++ .hasNext :: calls)).2 =
            (after.1.performAll t after.2 calls).2 := by
        intro calls
        rw [taken, performAll, perform, looked]
      obtain _ | _ | _ := answer
      · exact ⟨_, through [] nofun, further []⟩
      · exact ⟨_, through [] nofun, further []⟩
      · obtain ⟨calls, single, ends⟩ := ih (given ++ s.queue) after.1 after.2
        exact ⟨_, through calls single, (further calls).trans ends⟩

theorem performAll_append (t : Transport σ) (s : Scroll) (w : σ) (first second : List Call) :
    (s.performAll t w (first ++ second)).2 =
      ((s.performAll t w first).2.1.performAll t (s.performAll t w first).2.2 second).2 := by
  induction first generalizing s w with
  | nil => rfl
  | cons c first ih => exact ih (s.perform t w c).2.1 (s.perform t w c).2.2

theorem perform_single (t : Transport σ) (s : Scroll) (w : σ) (c : Call) :
    ∃ calls, (∀ pages, .drain pages ∉ calls) ∧
      (s.performAll t w calls).2 = (s.perform t w c).2 := by
  cases c with
  | hasNext => exact ⟨[.hasNext], by simp, rfl⟩
  | next => exact ⟨[.next], by simp, rfl⟩
  | drain pages => exact drainAfter_single t pages [] s w

theorem performAll_single (t : Transport σ) (s : Scroll) (w : σ) (calls : List Call) :
    ∃ calls', (∀ pages, .drain pages ∉ calls') ∧
      (s.performAll t w calls').2 = (s.performAll t w calls).2 := by
  induction calls generalizing s w with
  | nil => exact ⟨[], nofun, rfl⟩
  | cons c calls ih =>
    obtain ⟨first, single, performed⟩ := perform_single t s w c
    obtain ⟨rest, singles, continued⟩ := ih (s.perform t w c).2.1 (s.perform t w c).2.2
    refine ⟨first ++ rest, fun pages inside => ?_, ?_⟩
    · exact (List.mem_append.mp inside).elim (single pages) (singles pages)
    · rw [performAll_append, performed, continued]
      rfl

/-- Every run does to the scroll and exchanges with the transport what some run without drains does:
a drain takes the hits one by one and looks for more. -/
theorem exists_single_calls (t : Transport σ) (s : Scroll) (w : σ) (calls : List Call) :
    ∃ calls', (∀ pages, .drain pages ∉ calls') ∧
      (s.performAll t w calls').2 = (s.performAll t w calls).2 ∧
      s.transcript t w calls' = s.transcript t w calls := by
  obtain ⟨calls', single, same⟩ := performAll_single t.recorded s (w, []) calls
  rw [performAll_recorded, performAll_recorded] at same
  simp only [withRecord, List.nil_append, Prod.mk.injEq] at same
  exact ⟨calls', single, Prod.ext same.1 same.2.1, same.2.2⟩

end Scroll

end PortableSearch
