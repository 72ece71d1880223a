import PortableSearch.Request.Compile
import PortableSearch.Scroll
import PortableSearch.Reply.Summary
import PortableSearch.Settings

/-! Searching: a request is compiled, sent once, and its reply decoded. Nothing is sent for a
request that cannot be compiled, and nothing is sent again after a failure. -/
namespace PortableSearch

/-- How and where to search, over a transport with states of some type. -/
structure Searcher (σ : Type) where
  transport : Transport σ
  index : String
  documentType : Option String
  /-- The time zone of requests that name none. -/
  timeZone : Option String
  /-- The keep-alive of scrolls that name none. -/
  keepAlive : String
  /-- How many hits are asked for where a request does not say. -/
  pageSize : Option Int

namespace Searcher
variable {σ : Type}

inductive Fault where
  | request (fault : Request.Fault)
  | transport (fault : TransportFault)
  | malformed (fault : Reply.Malformed)
deriving DecidableEq, Repr

/-- The request with the searcher's page size if it has no limit of its own. -/
def limited (s : Searcher σ) (r : Request) : Request := { r with limit := r.limit.or s.pageSize }

/-- The body that is sent for a request. -/
def compile (s : Searcher σ) (current : Calendar.Moment) (context : Option Context) (r : Request) :
    Except Fault Value :=
  match (s.limited r).compile current s.timeZone context with
  | .ok compiled => .ok compiled.body
  | .error fault => .error (.request fault)

/-- Sends a body and decodes the reply. -/
def send (s : Searcher σ) (body : Value) (keepAlive : Option String) (w : σ) :
    Except Fault Reply.SearchResult × σ :=
  let (reaction, w) := s.transport.search ⟨s.index, s.documentType, body, keepAlive⟩ w
  match reaction with
  | .error fault => (.error (.transport fault), w)
  | .ok raw => ((Reply.decode raw).mapError .malformed, w)

/-- Compiles and sends a request. -/
def run (s : Searcher σ) (current : Calendar.Moment) (context : Option Context)
    (keepAlive : Option String) (r : Request) (w : σ) : Except Fault Reply.SearchResult × σ :=
  match s.compile current context r with
  | .error fault => (.error fault, w)
  | .ok body => s.send body keepAlive w

def search (s : Searcher σ) (current : Calendar.Moment) (context : Option Context) (r : Request)
    (w : σ) : Except Fault Reply.SearchResult × σ :=
  s.run current context none r w

/-- Searches and summarises the result. -/
def query (s : Searcher σ) (current : Calendar.Moment) (context : Option Context) (r : Request)
    (w : σ) : Except Fault Reply.Summary × σ :=
  let (result, w) := s.search current context r w
  (result.map Reply.SearchResult.summary, w)

/-- The keep-alive of a scroll: the given one unless it is empty. -/
def keepAliveFor (s : Searcher σ) (given : Option String) : String :=
  (Context.named? given).getD s.keepAlive

/-- Starts a scroll over all hits of a request. -/
def scroll (s : Searcher σ) (current : Calendar.Moment) (context : Option Context)
    (keepAlive : Option String) (r : Request) (w : σ) : Except Fault Scroll × σ :=
  let keepAlive := s.keepAliveFor keepAlive
  let (result, w) := s.run current context (some keepAlive) r w
  (result.map (Scroll.start keepAlive), w)

/-- What is said when no index is configured. -/
def noIndexMessage : String :=
  "index is required (provide as parameter or set SEARCH_BRIDGE_INDEX)"

/-- The searcher of settings over a client; none if neither the caller nor the settings name an
index. -/
def ofSettings? (settings : Settings) (client : Client σ) (index : Option String) :
    Option (Searcher σ) :=
  ((Context.named? index).or (Context.named? settings.index)).map fun index =>
    { transport := client.transport
      index
      documentType := some settings.documentType
      timeZone := some settings.timeZone
      keepAlive := settings.keepAlive
      pageSize := some settings.pageSize }

end Searcher

end PortableSearch
