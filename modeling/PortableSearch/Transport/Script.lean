import PortableSearch.Transport

/-! A transport that answers from a script and records what it is asked. Every search has the same
reaction; the pages are used up one by one, and after the last the connection fails. -/
namespace PortableSearch

structure Script where
  initial : Reaction
  pages : List Reaction
  /-- What has been asked, the latest last. -/
  calls : List Value

namespace Script

/-- The failure after the last page. -/
def noMorePages : TransportFault := .connection "no more pages"

/-- Answers a search that is recorded in some form. -/
def answerSearch (record : Value) (s : Script) : Reaction × Script :=
  (s.initial, { s with calls := s.calls ++ [record] })

/-- Answers a continuation that is recorded in some form. -/
def answerPage (record : Value) (s : Script) : Reaction × Script :=
  match s.pages with
  | [] => (.error noMorePages, { s with calls := s.calls ++ [record] })
  | page :: pages => (page, { s with pages, calls := s.calls ++ [record] })

def searchRecord (c : SearchCall) : Value :=
  .obj [("index", .str c.index), ("document_type", Value.ofOption .str c.documentType),
    ("body", c.body), ("scroll", Value.ofOption .str c.keepAlive)]

def pageRecord (c : Continuation) : Value :=
  .obj [("keep_alive", .str c.keepAlive), ("scroll_id", .str c.token)]

/-- The script as a transport. -/
def transport : Transport Script where
  search c := answerSearch (searchRecord c)
  resume c := answerPage (pageRecord c)

/-- The script as a client. -/
def client : Client Script where
  search ms := answerSearch (.obj [("search", .obj ms)])
  scroll ms := answerPage (.obj [("scroll", .obj ms)])

end Script

end PortableSearch
