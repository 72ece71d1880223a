import PortableSearch.Searcher
import PortableSearch.Scroll.Session

/-! Sessions with a searcher. Tasks follow each other in any order. Scrolls that tasks have started
stay in use side by side, and each is called by the number of the task that started it. -/
namespace PortableSearch.Searcher
open Calendar (Moment)

inductive Task where
  | compile (current : Moment) (context : Option Context) (r : Request)
  | search (current : Moment) (context : Option Context) (r : Request)
  | query (current : Moment) (context : Option Context) (r : Request)
  | scroll (current : Moment) (context : Option Context) (keepAlive : Option String) (r : Request)
  /-- A call on the scroll that an earlier task has started. -/
  | advance (starter : Nat) (call : Scroll.Call)

inductive Answer where
  | body (body : Value)
  | result (r : Reply.SearchResult)
  | summary (s : Reply.Summary)
  | started (s : Scroll)
  | scrolled (a : Scroll.Answer)

inductive Failure where
  | searcher (fault : Fault)
  | scroll (fault : Scroll.Fault)
  /-- The task whose scroll is called has started none. -/
  | noScroll
deriving DecidableEq, Repr

/-- The scrolls in use, with a place for each task so far, and the state of the transport. -/
structure Session (σ : Type) where
  scrolls : List (Option Scroll)
  world : σ

variable {σ : Type}

def Session.start (w : σ) : Session σ := ⟨[], w⟩

/-- The scroll that a task has started, as it stands now. -/
def Session.scroll? (session : Session σ) (task : Nat) : Option Scroll :=
  session.scrolls[task]?.join

/-- Answers one task. -/
def perform (s : Searcher σ) (session : Session σ) : Task → Except Failure Answer × Session σ
  | .compile current context r =>
    (((s.compile current context r).mapError .searcher).map .body,
      ⟨session.scrolls ++ [none], session.world⟩)
  | .search current context r =>
    let (result, w) := s.search current context r session.world
    ((result.mapError .searcher).map .result, ⟨session.scrolls ++ [none], w⟩)
  | .query current context r =>
    let (summary, w) := s.query current context r session.world
    ((summary.mapError .searcher).map .summary, ⟨session.scrolls ++ [none], w⟩)
  | .scroll current context keepAlive r =>
    let (scroll, w) := s.scroll current context keepAlive r session.world
    ((scroll.mapError .searcher).map .started, ⟨session.scrolls ++ [scroll.toOption], w⟩)
  | .advance starter call =>
    match session.scroll? starter with
    | none => (.error .noScroll, ⟨session.scrolls ++ [none], session.world⟩)
    | some scroll =>
      let (answer, scroll, w) := scroll.perform s.transport session.world call
      ((answer.mapError .scroll).map .scrolled,
        ⟨session.scrolls.set starter (some scroll) ++ [none], w⟩)

/-- Answers tasks one after the other. -/
def performAll (s : Searcher σ) (session : Session σ) :
    List Task → List (Except Failure Answer) × Session σ
  | [] => ([], session)
  | task :: tasks =>
    let (answer, session) := s.perform session task
    let (answers, session) := performAll s session tasks
    (answer :: answers, session)

end PortableSearch.Searcher
