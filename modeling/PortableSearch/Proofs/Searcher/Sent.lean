import PortableSearch.Proofs.Outcome
import PortableSearch.Proofs.Scroll.Transcript
import PortableSearch.Searcher.Session

/-! What a searcher sends. Every request that can be compiled is sent as one search, and nothing is
sent for another. A scroll fetches its pages with the keep-alive that its search was sent with.
What fails is answered with the failure, and the task that it belongs to sends nothing after it. -/
namespace PortableSearch

namespace Scroll
variable {σ α : Type}

/-- Pages that are fetched one after the other with one keep-alive, the last of them perhaps with a
failure. -/
inductive Fetched (keepAlive : String) : List Exchange → Option Fault → Prop
  | nil : Fetched keepAlive [] none
  | page {token : String} {reaction : Reaction} {page : Reply.SearchResult}
      {later : List Exchange} {failure : Option Fault} :
    resultOf reaction = .ok page → Fetched keepAlive later failure →
    Fetched keepAlive (.page ⟨keepAlive, token⟩ reaction :: later) failure
  | failed {token : String} {reaction : Reaction} {fault : Fault} :
    resultOf reaction = .error fault →
    Fetched keepAlive [.page ⟨keepAlive, token⟩ reaction] (some fault)

theorem Fetched.append {keepAlive : String} {first second : List Exchange}
    {failure : Option Fault} (before : Fetched keepAlive first none)
    (after : Fetched keepAlive second failure) : Fetched keepAlive (first ++ second) failure := by
  generalize unfailed : Option.none = failed at before
  induction before with
  | nil => exact after
  | page came _ ih => exact .page came (ih unfailed)
  | failed => cases unfailed

/-- A call on a scroll leaves its keep-alive as it is, fetches with it, and stops where a fetch
fails: the failure is the answer. -/
structure Fetches (s : Scroll) (answer : Except Fault α) (after : Scroll)
    (news : List Exchange) : Prop where
  keepAlive : after.keepAlive = s.keepAlive
  fetched : ∃ failure, Fetched s.keepAlive news failure ∧
    ∀ fault, failure = some fault → answer = .error fault

theorem Fetches.unfailed {s after : Scroll} {answer : α} {news : List Exchange}
    (fetches : Fetches s (.ok answer) after news) : Fetched s.keepAlive news none := by
  obtain ⟨failure, fetched, stops⟩ := fetches.fetched
  cases failure with
  | none => exact fetched
  | some fault => cases stops fault rfl

theorem Fetches.map {β : Type} {s after : Scroll} {answer : Except Fault α}
    {news : List Exchange} (fetches : Fetches s answer after news) (f : α → β) :
    Fetches s (answer.map f) after news := by
  obtain ⟨keepAlive, failure, fetched, stops⟩ := fetches
  refine ⟨keepAlive, failure, fetched, ?_⟩
  intro fault failed
  rw [stops fault failed]
  rfl

theorem hasNext_fetches (t : Transport σ) (s : Scroll) (w : σ) :
    Fetches s (s.hasNext t w).1 (s.hasNext t w).2.1 (s.asked t w) := by
  have look := s.hasNext_look t w
  generalize s.hasNext t w = result at look ⊢
  generalize s.asked t w = news at look ⊢
  cases look with
  | queued | ended => exact ⟨rfl, none, .nil, nofun⟩
  | failed _ _ came =>
    refine ⟨rfl, some _, .failed came, ?_⟩
    rintro _ ⟨⟩
    rfl
  | fetched _ _ came => exact ⟨rfl, none, .page came .nil, nofun⟩

theorem next_fetches (t : Transport σ) (s : Scroll) (w : σ) :
    Fetches s (s.next t w).1 (s.next t w).2.1 (s.asked t w) := by
  have looked := s.hasNext_fetches t w
  simp only [next]
  generalize s.hasNext t w = result at looked ⊢
  obtain ⟨fault | left, after, w'⟩ := result
  · obtain ⟨keepAlive, failure, fetched, stops⟩ := looked
    refine ⟨keepAlive, failure, fetched, ?_⟩
    intro fault' failed
    cases stops fault' failed
    rfl
  · have fetched := looked.unfailed
    cases queue : after.queue with
    | nil => simpa [queue] using ⟨looked.keepAlive, none, fetched, by simp⟩
    | cons hit rest => simpa [queue] using ⟨looked.keepAlive, none, fetched, by simp⟩

/-- By induction on the pages that may be fetched. Only a page that was decoded is followed by
another. -/
theorem drainAfter_fetches (t : Transport σ) (pages : Nat) (given : List Reply.Hit) (s : Scroll)
    (w : σ) :
    let drained := drainAfter t.recorded pages given s (w, [])
    Fetches s drained.1 drained.2.1 drained.2.2.2 := by
  induction pages generalizing given s w with
  | zero => exact ⟨rfl, none, .nil, nofun⟩
  | succ pages ih =>
    have looked := hasNext_fetches t { s with queue := [] } w
    simp only [drainAfter, hasNext_recorded, List.nil_append]
    generalize Scroll.hasNext t { s with queue := [] } w = result at looked ⊢
    generalize asked t { s with queue := [] } w = asked at looked ⊢
    obtain ⟨fault | left, after, w'⟩ := result
    · obtain ⟨keepAlive, failure, fetched, stops⟩ := looked
      refine ⟨keepAlive, failure, fetched, ?_⟩
      intro fault' failed
      cases stops fault' failed
      rfl
    · have fetched := looked.unfailed
      cases left with
      | false => exact ⟨looked.keepAlive, none, fetched, nofun⟩
      | true =>
        have later := ih (given ++ s.queue) after w'
        obtain ⟨news, same⟩ := drainAfter_recorded t pages (given ++ s.queue) after w'
        simp only [same, withRecord, List.nil_append] at later ⊢
        obtain ⟨keepAlive, failure, further, stops⟩ := later
        refine ⟨keepAlive.trans looked.keepAlive, failure, ?_, stops⟩
        rw [looked.keepAlive] at further
        exact fetched.append further

/-- One call adds its transcript to the record. -/
theorem perform_adds (t : Transport σ) (s : Scroll) (w : σ) (record : List Exchange) (c : Call) :
    s.perform t.recorded (w, record) c =
      withRecord (record ++ s.transcript t w [c]) (s.perform t w c) := by
  obtain ⟨news, performed⟩ := perform_recorded t s w c
  have transcript : s.transcript t w [c] = news := by
    simp [transcript, performAll, performed, withRecord]
  rw [transcript, performed]

theorem perform_fetches (t : Transport σ) (s : Scroll) (w : σ) (c : Call) :
    Fetches s (s.perform t w c).1 (s.perform t w c).2.1 (s.transcript t w [c]) := by
  cases c with
  | hasNext =>
    rw [transcript_hasNext]
    exact (hasNext_fetches t s w).map Answer.isLeft
  | next =>
    rw [transcript_next]
    exact (next_fetches t s w).map Answer.hit
  | drain pages =>
    have drained := drainAfter_fetches t pages [] s w
    obtain ⟨news, same⟩ := drainAfter_recorded t pages [] s w
    simp only [same, withRecord, List.nil_append] at drained
    simpa [transcript, performAll, perform, drain, same, withRecord] using drained.map Answer.hits

end Scroll

namespace Searcher
variable {σ : Type}

/-- The searcher over a transport that records. -/
def recorded (s : Searcher σ) : Searcher (σ × List Exchange) :=
  ⟨s.transport.recorded, s.index, s.documentType, s.timeZone, s.keepAlive, s.pageSize⟩

def Session.withRecord (session : Session σ) (record : List Exchange) :
    Session (σ × List Exchange) :=
  ⟨session.scrolls, session.world, record⟩

/-- The keep-alive of a scroll: the given one where it is not empty, and else the configured. -/
def keepAliveInEffect (s : Searcher σ) (given : Option String) : String :=
  if given = none ∨ given = some "" then s.keepAlive else given.getD s.keepAlive

/-- The search that a body is sent as. -/
def callFor (s : Searcher σ) (body : Value) (keepAlive : Option String) : SearchCall :=
  ⟨s.index, s.documentType, body, keepAlive⟩

/-- The search that a task has to send, if its request can be compiled. -/
def searchFor (s : Searcher σ) : Task → Option SearchCall
  | .search current context r | .query current context r =>
    (s.compile current context r).toOption.map fun body => s.callFor body none
  | .scroll current context given r =>
    (s.compile current context r).toOption.map fun body =>
      s.callFor body (some (s.keepAliveInEffect given))
  | .compile .. | .advance .. => none

/-- Why the request of a task cannot be compiled, if it cannot. -/
def refusal? (s : Searcher σ) : Task → Option Fault
  | .compile current context r | .search current context r | .query current context r
  | .scroll current context _ r => faultOf (s.compile current context r)
  | .advance .. => none

/-- The result in the reaction to a search. -/
def resultOf : Reaction → Except Fault Reply.SearchResult
  | .error fault => .error (.transport fault)
  | .ok raw => (Reply.decode raw).mapError .malformed

/-- How a task goes after others: its answer, and all that it exchanges with the transport. -/
inductive Handles (s : Searcher σ) (before : List (Task × Except Failure Answer)) :
    Task → Except Failure Answer → List Exchange → Prop
  | refused {task : Task} {fault : Fault} :
    s.refusal? task = some fault → Handles s before task (.error (.searcher fault)) []
  | compiled {current : Calendar.Moment} {context : Option Context} {r : Request} {body : Value} :
    s.compile current context r = .ok body →
    Handles s before (.compile current context r) (.ok (.body body)) []
  | failed {task : Task} {call : SearchCall} {reaction : Reaction} {fault : Fault} :
    s.searchFor task = some call → resultOf reaction = .error fault →
    Handles s before task (.error (.searcher fault)) [.search call reaction]
  | replied {task : Task} {call : SearchCall} {reaction : Reaction} {result : Reply.SearchResult}
      {answer : Answer} :
    s.searchFor task = some call → resultOf reaction = .ok result →
    Handles s before task (.ok answer) [.search call reaction]
  /-- The scroll fetches with the keep-alive of the search that has started it. -/
  | advanced {starter : Nat} {call : Scroll.Call} {current : Calendar.Moment}
      {context : Option Context} {given : Option String} {r : Request} {scroll : Scroll}
      {log : List Exchange} {failure : Option Scroll.Fault} {answer : Except Failure Answer} :
    before[starter]? = some (.scroll current context given r, .ok (.started scroll)) →
    Scroll.Fetched (s.keepAliveInEffect given) log failure →
    (∀ fault, failure = some fault → answer = .error (.scroll fault)) →
    Handles s before (.advance starter call) answer log
  | unstarted {starter : Nat} {call : Scroll.Call} :
    (∀ task scroll, before[starter]? ≠ some (task, .ok (.started scroll))) →
    Handles s before (.advance starter call) (.error .noScroll) []

/-- What running a request exchanges with the transport. -/
def issued (s : Searcher σ) (compiled : Except Fault Value) (keepAlive : Option String) (w : σ) :
    List Exchange :=
  (compiled.toOption.map fun body =>
    .search (s.callFor body keepAlive) (s.transport.search (s.callFor body keepAlive) w).1).toList

/-- What a task exchanges with the transport. -/
def transcript (s : Searcher σ) (session : Session σ) : Task → List Exchange
  | .compile .. => []
  | .search current context r | .query current context r =>
    s.issued (s.compile current context r) none session.world
  | .scroll current context given r =>
    s.issued (s.compile current context r) (some (s.keepAliveFor given)) session.world
  | .advance starter call =>
    match session.scroll? starter with
    | none => []
    | some scroll => scroll.transcript s.transport session.world [call]

/-- What tasks exchange with the transport, for each of them. -/
def transcripts (s : Searcher σ) (session : Session σ) : List Task → List (List Exchange)
  | [] => []
  | task :: tasks => s.transcript session task :: transcripts s (s.perform session task).2 tasks

theorem keepAliveFor_eq (s : Searcher σ) (given : Option String) :
    s.keepAliveFor given = s.keepAliveInEffect given := by
  cases given with
  | none => rfl
  | some k =>
    by_cases blank : k = ""
    · subst blank
      rfl
    · simp [keepAliveFor, keepAliveInEffect, Context.named?, blank]

theorem run_eq (s : Searcher σ) (current : Calendar.Moment) (context : Option Context)
    (keepAlive : Option String) (r : Request) (w : σ) {body : Value}
    (compiled : s.compile current context r = .ok body) :
    s.run current context keepAlive r w =
      (resultOf (s.transport.search (s.callFor body keepAlive) w).1,
        (s.transport.search (s.callFor body keepAlive) w).2) := by
  rw [run, compiled]
  simp only [send, callFor]
  cases (s.transport.search ⟨s.index, s.documentType, body, keepAlive⟩ w).1 <;> rfl

theorem run_refused (s : Searcher σ) (current : Calendar.Moment) (context : Option Context)
    (keepAlive : Option String) (r : Request) (w : σ) {fault : Fault}
    (refused : s.compile current context r = .error fault) :
    s.run current context keepAlive r w = (.error fault, w) := by
  rw [run, refused]

theorem run_recorded (s : Searcher σ) (current : Calendar.Moment) (context : Option Context)
    (keepAlive : Option String) (r : Request) (w : σ) (record : List Exchange) :
    s.recorded.run current context keepAlive r (w, record) =
      ((s.run current context keepAlive r w).1, (s.run current context keepAlive r w).2,
        record ++ s.issued (s.compile current context r) keepAlive w) := by
  have same : s.recorded.compile current context r = s.compile current context r := rfl
  cases compiled : s.compile current context r with
  | error fault =>
    rw [run_refused _ _ _ _ _ _ (same.trans compiled), run_refused _ _ _ _ _ _ compiled]
    simp [issued, Except.toOption]
  | ok body =>
    rw [run_eq _ _ _ _ _ _ (same.trans compiled), run_eq _ _ _ _ _ _ compiled]
    rfl

/-- Recording leaves answers and states as they are and adds the transcript to the record. -/
theorem perform_recorded (s : Searcher σ) (session : Session σ) (record : List Exchange)
    (task : Task) : s.recorded.perform (session.withRecord record) task =
      ((s.perform session task).1,
        (s.perform session task).2.withRecord (record ++ s.transcript session task)) := by
  cases task with
  | compile current context r => simp [perform, transcript, Session.withRecord]; rfl
  | search current context r =>
    simp [perform, search, transcript, Session.withRecord, run_recorded]
  | query current context r =>
    simp [perform, query, search, transcript, Session.withRecord, run_recorded]
  | scroll current context given r =>
    have same : s.recorded.keepAliveFor given = s.keepAliveFor given := rfl
    simp [perform, Searcher.scroll, transcript, Session.withRecord, run_recorded, same]
  | advance starter call =>
    have same : (session.withRecord record).scroll? starter = session.scroll? starter := rfl
    simp only [perform, same, transcript]
    cases session.scroll? starter with
    | none => simp [Session.withRecord]
    | some scroll =>
      have added := Scroll.perform_adds s.transport scroll session.world record call
      simp only [Session.withRecord, recorded, added, Scroll.withRecord]

theorem performAll_recorded (s : Searcher σ) (session : Session σ) (record : List Exchange)
    (tasks : List Task) : s.recorded.performAll (session.withRecord record) tasks =
      ((s.performAll session tasks).1, (s.performAll session tasks).2.withRecord
        (record ++ (s.transcripts session tasks).flatten)) := by
  induction tasks generalizing session record with
  | nil => simp [performAll, transcripts]
  | cons task tasks ih =>
    simp only [performAll, perform_recorded, ih, transcripts, List.flatten_cons,
      List.append_assoc]

/-! What holds between a task that is done and its place among the scrolls -/

/-- The place of a task that has started a scroll has this, with the keep-alive of its search; the
place of another is empty. -/
inductive Keeps (s : Searcher σ) : Task × Except Failure Answer → Option Scroll → Prop
  | started {current : Calendar.Moment} {context : Option Context} {given : Option String}
      {r : Request} {first scroll : Scroll} :
    scroll.keepAlive = s.keepAliveInEffect given →
    Keeps s (.scroll current context given r, .ok (.started first)) (some scroll)
  | other {task : Task} {answer : Except Failure Answer} :
    (∀ scroll, answer ≠ .ok (.started scroll)) → Keeps s (task, answer) none

/-- All tasks that are done have their places in a session. -/
def Tracks (s : Searcher σ) (before : List (Task × Except Failure Answer)) (session : Session σ) :
    Prop :=
  List.Forall₂ s.Keeps before session.scrolls

variable {s : Searcher σ} {before : List (Task × Except Failure Answer)} {session : Session σ}

theorem Tracks.concat (tracks : s.Tracks before session) {task : Task}
    {answer : Except Failure Answer} {scroll : Option Scroll}
    (keeps : s.Keeps (task, answer) scroll) (w : σ) :
    s.Tracks (before ++ [(task, answer)]) ⟨session.scrolls ++ [scroll], w⟩ :=
  List.rel_append tracks (.cons keeps .nil)

theorem Tracks.scroll? (tracks : s.Tracks before session) {starter : Nat} {scroll : Scroll}
    (found : session.scroll? starter = some scroll) : ∃ current context given r first,
      before[starter]? = some (.scroll current context given r, .ok (.started first)) ∧
        scroll.keepAlive = s.keepAliveInEffect given := by
  rw [Session.scroll?, Option.join_eq_some_iff] at found
  obtain ⟨done, keeps, there⟩ := forall₂_getElem? tracks.flip found
  cases keeps with
  | started keepAlive => exact ⟨_, _, _, _, _, there, keepAlive⟩

theorem Tracks.unstarted (tracks : s.Tracks before session) {starter : Nat}
    (none : session.scroll? starter = none) (task : Task) (scroll : Scroll) :
    before[starter]? ≠ some (task, .ok (.started scroll)) := by
  intro found
  obtain ⟨place, keeps, there⟩ := forall₂_getElem? tracks found
  rw [Session.scroll?, there] at none
  cases keeps with
  | started => cases none
  | other never => exact never scroll rfl

/-- A scroll that keeps its keep-alive takes its own place again. -/
theorem Tracks.set (tracks : s.Tracks before session) {starter : Nat} {scroll after : Scroll}
    (found : session.scroll? starter = some scroll) (same : after.keepAlive = scroll.keepAlive) :
    s.Tracks before ⟨session.scrolls.set starter (some after), session.world⟩ := by
  obtain ⟨current, context, given, r, first, there, keepAlive⟩ := tracks.scroll? found
  apply forall₂_set tracks
  intro done isDone
  cases isDone.symm.trans there
  exact .started (same.trans keepAlive)

/-! One task -/

theorem run_handles {task : Task} {current : Calendar.Moment} {context : Option Context}
    {r : Request} {keepAlive : Option String}
    (refuses : s.refusal? task = faultOf (s.compile current context r))
    (sends : s.searchFor task =
      (s.compile current context r).toOption.map fun body => s.callFor body keepAlive)
    (present : Reply.SearchResult → Answer) (w : σ) :
    s.Handles before task
      (((s.run current context keepAlive r w).1.mapError .searcher).map present)
      (s.issued (s.compile current context r) keepAlive w) := by
  cases compiled : s.compile current context r with
  | error fault =>
    rw [compiled] at refuses
    rw [run_refused _ _ _ _ _ _ compiled]
    exact .refused refuses
  | ok body =>
    rw [compiled] at sends
    rw [run_eq _ _ _ _ _ _ compiled]
    cases came : resultOf (s.transport.search (s.callFor body keepAlive) w).1 with
    | error fault => exact .failed sends came
    | ok result => exact .replied sends came

theorem answer_map {α β : Type} (x : Except Fault α) (f : α → β) (present : β → Answer) :
    ((x.map f).mapError Failure.searcher).map present =
      (x.mapError .searcher).map fun a => present (f a) := by
  cases x <;> rfl

theorem perform_handles (tracks : s.Tracks before session) (task : Task) :
    s.Handles before task (s.perform session task).1 (s.transcript session task) := by
  cases task with
  | compile current context r =>
    simp only [perform, transcript]
    cases compiled : s.compile current context r with
    | error fault => exact .refused (faultOf_eq_some.mpr compiled)
    | ok body => exact .compiled compiled
  | search current context r => exact run_handles rfl rfl .result session.world
  | query current context r =>
    simp only [perform, query, search, answer_map]
    exact run_handles rfl rfl _ session.world
  | scroll current context given r =>
    simp only [perform, Searcher.scroll, answer_map]
    refine run_handles rfl ?_ _ session.world
    rw [keepAliveFor_eq]
    rfl
  | advance starter call =>
    simp only [perform, transcript]
    cases found : session.scroll? starter with
    | none => exact .unstarted (tracks.unstarted found)
    | some scroll =>
      obtain ⟨current, context, given, r, first, there, keepAlive⟩ := tracks.scroll? found
      obtain ⟨-, failure, fetched, stops⟩ :=
        Scroll.perform_fetches s.transport scroll session.world call
      rw [keepAlive] at fetched
      refine .advanced there fetched ?_
      intro fault failed
      simp only [stops fault failed]
      rfl

/-- A task that answers otherwise than with a scroll has an empty place. -/
theorem Keeps.map {α : Type} {task : Task} {present : α → Answer}
    (other : ∀ a scroll, present a ≠ .started scroll) (x : Except Failure α) :
    s.Keeps (task, x.map present) none := by
  apply Keeps.other
  intro scroll started
  obtain ⟨a, -, same⟩ := map_ok.mp started
  exact other a scroll same

theorem perform_tracks (tracks : s.Tracks before session) (task : Task) :
    s.Tracks (before ++ [(task, (s.perform session task).1)]) (s.perform session task).2 := by
  cases task with
  | compile | search | query =>
    simp only [perform]
    apply tracks.concat
    apply Keeps.map
    rintro _ _ ⟨⟩
  | scroll current context given r =>
    simp only [perform, Searcher.scroll]
    apply tracks.concat
    cases (s.run current context (some (s.keepAliveFor given)) r session.world).1 with
    | error fault => exact .other nofun
    | ok result => exact .started (s.keepAliveFor_eq given)
  | advance starter call =>
    simp only [perform]
    cases found : session.scroll? starter with
    | none =>
      have other : s.Keeps (.advance starter call, .error .noScroll) none := .other nofun
      exact tracks.concat other session.world
    | some scroll =>
      have fetches := Scroll.perform_fetches s.transport scroll session.world call
      have replaced := tracks.set found fetches.keepAlive
      apply replaced.concat
      apply Keeps.map
      rintro _ _ ⟨⟩

/-! All tasks -/

/-- By induction on the tasks. What holds before a task holds after it with the task among those
that are done. -/
theorem performAll_handles (tracks : s.Tracks before session) (tasks : List Task) {i : Nat}
    {task : Task} (asked : tasks[i]? = some task) :
    ∃ answer log, (s.performAll session tasks).1[i]? = some answer ∧
      (s.transcripts session tasks)[i]? = some log ∧
      s.Handles (before ++ (tasks.zip (s.performAll session tasks).1).take i) task answer log := by
  induction tasks generalizing before session i with
  | nil => cases asked
  | cons first tasks ih =>
    cases i with
    | zero =>
      cases asked
      refine ⟨_, _, rfl, rfl, ?_⟩
      rw [List.take_zero, List.append_nil]
      exact perform_handles tracks task
    | succ i =>
      obtain ⟨answer, log, answered, logged, handled⟩ := ih (perform_tracks tracks _) asked
      rw [List.append_assoc] at handled
      exact ⟨answer, log, answered, logged, handled⟩

/-- The search in an exchange. -/
def search? : Exchange → Option SearchCall
  | .search call _ => some call
  | .page .. => none

theorem fetched_no_search {keepAlive : String} {log : List Exchange}
    {failure : Option Scroll.Fault} (fetched : Scroll.Fetched keepAlive log failure) :
    log.filterMap search? = [] := by
  induction fetched with
  | nil | failed => rfl
  | page _ _ ih => exact ih

theorem Handles.searches {task : Task} {answer : Except Failure Answer} {log : List Exchange}
    (handled : s.Handles before task answer log) :
    log.filterMap search? = (s.searchFor task).toList := by
  cases handled with
  | refused refused =>
    cases task with
    | compile | advance => rfl
    | search | query | scroll =>
      simp only [searchFor, faultOf_eq_some.mp refused]
      rfl
  | compiled | unstarted => rfl
  | failed sends | replied sends =>
    rw [sends]
    rfl
  | advanced _ fetched => exact fetched_no_search fetched

theorem transcripts_searches (tracks : s.Tracks before session) (tasks : List Task) :
    (s.transcripts session tasks).flatten.filterMap search? = tasks.filterMap s.searchFor := by
  induction tasks generalizing before session with
  | nil => rfl
  | cons task tasks ih =>
    rw [transcripts, List.flatten_cons, List.filterMap_append, List.filterMap_cons,
      (perform_handles tracks task).searches, ih (perform_tracks tracks task)]
    cases s.searchFor task <;> rfl

/-- Over any session: recording shows all that is exchanged with the transport, the searches in it
are those of the requests that can be compiled, in their order, and each task goes as it has to. -/
theorem session_sends (s : Searcher σ) (w : σ) (tasks : List Task) :
    let run := s.performAll (.start w) tasks
    let logs := s.transcripts (.start w) tasks
    s.recorded.performAll (.start (w, [])) tasks = (run.1, run.2.withRecord logs.flatten) ∧
    logs.flatten.filterMap search? = tasks.filterMap s.searchFor ∧
    ∀ i task, tasks[i]? = some task → ∃ answer log, run.1[i]? = some answer ∧
      logs[i]? = some log ∧ s.Handles ((tasks.zip run.1).take i) task answer log := by
  intro run logs
  have tracks : s.Tracks [] (.start w) := .nil
  refine ⟨performAll_recorded s (.start w) [] tasks, transcripts_searches tracks tasks, ?_⟩
  intro i task asked
  exact performAll_handles tracks tasks asked

end Searcher

end PortableSearch
