import PortableSearch.Transport

/-! Scrolling over all hits of a search. Hits of the initial reply come first; further pages are
fetched one at a time, and only when no hit is left. The first page without hits ends the scroll
and drops its token. A fetch that fails changes nothing and is not repeated by itself. -/
namespace PortableSearch

structure Scroll where
  keepAlive : String
  /-- The hits that have been fetched and not yet been given out. -/
  queue : List Reply.Hit
  /-- The token of the cursor; none once the scroll has ended. -/
  token : Option String

namespace Scroll

/-- The keep-alive where none is given. -/
def standardKeepAlive : String := "1m"

inductive Fault where
  | transport (fault : TransportFault)
  | malformed (fault : Reply.Malformed)
  /-- No hit is left. -/
  | exhausted
  /-- More pages would have to be fetched than permitted. -/
  | tooManyPages
deriving DecidableEq, Repr

def exhaustedMessage : String := "Scroll iterator has no more hits"

/-- The scroll over the hits of an initial reply. -/
def start (keepAlive : String) (r : Reply.SearchResult) : Scroll :=
  ⟨keepAlive, r.hits.hits, r.scrollId⟩

/-- The continuation that is needed to know whether a hit is left. -/
def request? (s : Scroll) : Option Continuation :=
  if s.queue.isEmpty then s.token.map fun t => ⟨s.keepAlive, t⟩ else none

/-- The scroll after a page has arrived. -/
def receive (s : Scroll) (r : Reply.SearchResult) : Scroll :=
  { s with queue := r.hits.hits, token := if r.hits.hits.isEmpty then none else r.scrollId }

/-- The result in a reaction. -/
def resultOf : Reaction → Except Fault Reply.SearchResult
  | .error fault => .error (.transport fault)
  | .ok raw => (Reply.decode raw).mapError .malformed

variable {σ : Type}

/-- Fetches a page if one is needed; tells whether a hit is left. -/
def hasNext (t : Transport σ) (s : Scroll) (w : σ) : Except Fault Bool × Scroll × σ :=
  match s.request? with
  | none => (.ok (!s.queue.isEmpty), s, w)
  | some c =>
    let (reaction, w) := t.resume c w
    match resultOf reaction with
    | .error fault => (.error fault, s, w)
    | .ok r => (.ok (!r.hits.hits.isEmpty), s.receive r, w)

/-- Gives out the next hit. -/
def next (t : Transport σ) (s : Scroll) (w : σ) : Except Fault Reply.Hit × Scroll × σ :=
  match s.hasNext t w with
  | (.error fault, s, w) => (.error fault, s, w)
  | (.ok _, s, w) =>
    match s.queue with
    | [] => (.error .exhausted, s, w)
    | hit :: queue => (.ok hit, { s with queue }, w)

/-- Gives out all hits that are left, after hits that were given out before. If a fetch fails, the
hits that had been queued are gone with it. At most so many pages are fetched. -/
def drainAfter (t : Transport σ) (pages : Nat) (given : List Reply.Hit) (s : Scroll) (w : σ) :
    Except Fault (List Reply.Hit) × Scroll × σ :=
  match pages with
  | 0 => (.error .tooManyPages, s, w)
  | pages + 1 =>
    let given := given ++ s.queue
    match ({ s with queue := [] } : Scroll).hasNext t w with
    | (.error fault, s, w) => (.error fault, s, w)
    | (.ok false, s, w) => (.ok given, s, w)
    | (.ok true, s, w) => drainAfter t pages given s w

/-- Gives out all hits that are left. -/
def drain (t : Transport σ) (pages : Nat) (s : Scroll) (w : σ) :
    Except Fault (List Reply.Hit) × Scroll × σ :=
  drainAfter t pages [] s w

end Scroll

end PortableSearch
