import PortableSearch.Scroll

/-! Sessions with a scroll. Calls follow each other in any order, and each is answered or fails; a
call that fails leaves the scroll in use. -/
namespace PortableSearch.Scroll

/-- What a scroll can be asked for. -/
inductive Call where
  /-- Whether a hit is left. -/
  | hasNext
  /-- The next hit. -/
  | next
  /-- All hits that are left, from at most so many pages. -/
  | drain (pages : Nat)
deriving DecidableEq, Repr

inductive Answer where
  | isLeft (left : Bool)
  | hit (h : Reply.Hit)
  | hits (hs : List Reply.Hit)

variable {σ : Type}

/-- Answers one call. -/
def perform (t : Transport σ) (s : Scroll) (w : σ) :
    Call → Except Fault Answer × Scroll × σ
  | .hasNext => let (r, s, w) := s.hasNext t w; (r.map .isLeft, s, w)
  | .next => let (r, s, w) := s.next t w; (r.map .hit, s, w)
  | .drain pages => let (r, s, w) := s.drain t pages w; (r.map .hits, s, w)

/-- Answers calls one after the other. -/
def performAll (t : Transport σ) (s : Scroll) (w : σ) :
    List Call → List (Except Fault Answer) × Scroll × σ
  | [] => ([], s, w)
  | c :: cs =>
    let (answer, s, w) := s.perform t w c
    let (answers, s, w) := performAll t s w cs
    (answer :: answers, s, w)

end PortableSearch.Scroll
