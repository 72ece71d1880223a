import PortableSearch.Proofs.Scroll.Transcript

/-! How a scroll uses its cursor. It asks for one page at a time, only when no hit is left, and with
the token of the reply that was decoded last; once it has told that no hit is left it never asks
again. The statements hold for every transport and for calls in any order. -/
namespace PortableSearch.Scroll
variable {σ : Type}

/-- The token in the reply that was decoded last: in the latest page of a record or, before any
page, in the initial reply. -/
def latestToken (initial : Reply.SearchResult) (record : List Exchange) : Option String :=
  ((pages record).getLastD initial).scrollId

/-- Everything in a record is a continuation with a keep-alive and with the token of the reply that
had been decoded last at that point. -/
def FollowsCursor (keepAlive : String) (initial : Reply.SearchResult) (record : List Exchange) :
    Prop :=
  ∀ earlier e later, record = earlier ++ e :: later → ∃ token reaction,
    latestToken initial earlier = some token ∧ e = .page ⟨keepAlive, token⟩ reaction

theorem latestToken_failed (initial : Reply.SearchResult) (record : List Exchange)
    {c : Continuation} {reaction : Reaction} {fault : Fault}
    (came : resultOf reaction = .error fault) :
    latestToken initial (record ++ [.page c reaction]) = latestToken initial record := by
  simp only [latestToken, pages_append, pages_failed came, List.append_nil]

theorem latestToken_fetched (initial : Reply.SearchResult) (record : List Exchange)
    {c : Continuation} {reaction : Reaction} {page : Reply.SearchResult}
    (came : resultOf reaction = .ok page) :
    latestToken initial (record ++ [.page c reaction]) = page.scrollId := by
  simp only [latestToken, pages_append, pages_fetched came, List.getLastD_concat]

theorem FollowsCursor.concat {keepAlive token : String} {initial : Reply.SearchResult}
    {record : List Exchange} (follows : FollowsCursor keepAlive initial record)
    (held : latestToken initial record = some token) (reaction : Reaction) :
    FollowsCursor keepAlive initial (record ++ [.page ⟨keepAlive, token⟩ reaction]) := by
  intro earlier e later split
  rcases List.eq_nil_or_concat later with rfl | ⟨rest, last, rfl⟩
  · obtain ⟨rfl, same⟩ := List.append_inj' split rfl
    obtain rfl := List.singleton_inj.mp same
    exact ⟨token, reaction, held, rfl⟩
  · have shorter : record = earlier ++ e :: rest := by
      have dropped := congrArg List.dropLast split
      simpa only [List.concat_eq_append, ← List.cons_append, ← List.append_assoc,
        List.dropLast_concat] using dropped
    exact follows earlier e rest shorter

/-- What ties a scroll to the record of what it has exchanged. A scroll may have dropped its token,
and otherwise holds the latest. -/
structure OnCursor (keepAlive : String) (initial : Reply.SearchResult) (s : Scroll)
    (record : List Exchange) : Prop where
  held : s.keepAlive = keepAlive
  token : s.token = none ∨ s.token = latestToken initial record
  follows : FollowsCursor keepAlive initial record

theorem start_onCursor (keepAlive : String) (initial : Reply.SearchResult) :
    OnCursor keepAlive initial (start keepAlive initial) [] where
  held := rfl
  token := Or.inr rfl
  follows := by
    intro earlier e later split
    simp at split

section Invariant
variable {keepAlive : String} {initial : Reply.SearchResult} {record : List Exchange}

theorem OnCursor.queue {s : Scroll} (on : OnCursor keepAlive initial s record)
    (queue : List Reply.Hit) : OnCursor keepAlive initial { s with queue } record :=
  ⟨on.held, on.token, on.follows⟩

theorem OnCursor.hasNext {s : Scroll} (on : OnCursor keepAlive initial s record)
    (t : Transport σ) (w : σ) :
    OnCursor keepAlive initial (s.hasNext t w).2.1 (record ++ s.asked t w) := by
  obtain ⟨rfl, held, follows⟩ := on
  have latest : ∀ token, s.token = some token → latestToken initial record = some token := by
    intro token has
    rcases held with dropped | latest
    · simp [dropped] at has
    · exact latest.symm.trans has
  have look := s.hasNext_look t w
  generalize s.hasNext t w = result at look ⊢
  generalize s.asked t w = news at look ⊢
  cases look with
  | queued | ended => simpa only [List.append_nil] using ⟨rfl, held, follows⟩
  | failed _ has came =>
    exact ⟨rfl, by rwa [latestToken_failed initial record came], follows.concat (latest _ has) _⟩
  | @fetched token page _ has came =>
    refine ⟨rfl, ?_, follows.concat (latest _ has) _⟩
    rw [latestToken_fetched initial record came]
    simp only [receive]
    split
    · exact Or.inl rfl
    · exact Or.inr rfl

theorem OnCursor.next {s : Scroll} (on : OnCursor keepAlive initial s record)
    (t : Transport σ) (w : σ) :
    OnCursor keepAlive initial (s.next t w).2.1 (record ++ s.asked t w) := by
  have looked := on.hasNext t w
  simp only [Scroll.next]
  generalize s.hasNext t w = result at looked ⊢
  obtain ⟨_ | left, after, w'⟩ := result
  · exact looked
  · cases queue : after.queue with
    | nil => simpa [queue] using looked
    | cons hit rest => simpa [queue] using looked.queue rest

theorem OnCursor.drainAfter {s : Scroll} (on : OnCursor keepAlive initial s record)
    (t : Transport σ) (pages : Nat) (given : List Reply.Hit) (w : σ) :
    let drained := Scroll.drainAfter t.recorded pages given s (w, record)
    OnCursor keepAlive initial drained.2.1 drained.2.2.2 := by
  induction pages generalizing s given w record with
  | zero => exact on
  | succ pages ih =>
    have looked := (on.queue []).hasNext t w
    simp only [Scroll.drainAfter, hasNext_recorded]
    generalize Scroll.hasNext t { s with queue := [] } w = result at looked ⊢
    obtain ⟨_ | left, after, w'⟩ := result
    · exact looked
    · cases left with
      | false => exact looked
      | true => exact ih looked (given ++ s.queue) w'

theorem OnCursor.perform {s : Scroll} (on : OnCursor keepAlive initial s record)
    (t : Transport σ) (w : σ) (c : Call) :
    let performed := s.perform t.recorded (w, record) c
    OnCursor keepAlive initial performed.2.1 performed.2.2.2 := by
  cases c with
  | hasNext =>
    simp only [Scroll.perform, hasNext_recorded]
    exact on.hasNext t w
  | next =>
    simp only [Scroll.perform, next_recorded]
    exact on.next t w
  | drain pages => exact on.drainAfter t pages [] w

theorem OnCursor.performAll {s : Scroll} (on : OnCursor keepAlive initial s record)
    (t : Transport σ) (w : σ) (calls : List Call) :
    OnCursor keepAlive initial (s.performAll t w calls).2.1
      (record ++ s.transcript t w calls) := by
  have recorded : let run := s.performAll t.recorded (w, record) calls
      OnCursor keepAlive initial run.2.1 run.2.2.2 := by
    induction calls generalizing s w record with
    | nil => exact on
    | cons c calls ih => exact ih (on.perform t w c) _
  rw [performAll_recorded] at recorded
  exact recorded

end Invariant

/-- What is answered to a call once no hit is left and none can be fetched. -/
def answerAtEnd : Call → Except Fault Answer
  | .hasNext => .ok (.isLeft false)
  | .next => .error .exhausted
  | .drain 0 => .error .tooManyPages
  | .drain (_ + 1) => .ok (.hits [])

/-- A scroll without hits and without a token stays as it is and leaves every transport alone. -/
theorem perform_ended (t : Transport σ) {s : Scroll} (empty : s.queue = []) (none : s.token = none)
    (w : σ) (c : Call) : s.perform t w c = (answerAtEnd c, s, w) := by
  obtain ⟨keepAlive, queue, token⟩ := s
  subst empty none
  cases c with
  | hasNext | next => rfl
  | drain pages => cases pages <;> rfl

theorem performAll_ended (t : Transport σ) {s : Scroll} (empty : s.queue = [])
    (none : s.token = none) (w : σ) (calls : List Call) :
    s.performAll t w calls = (calls.map answerAtEnd, s, w) := by
  induction calls with
  | nil => rfl
  | cons c calls ih => simp only [performAll, perform_ended t empty none, ih, List.map_cons]

theorem transcript_ended (t : Transport σ) {s : Scroll} (empty : s.queue = [])
    (none : s.token = none) (w : σ) (calls : List Call) : s.transcript t w calls = [] := by
  simp only [transcript, performAll_ended t.recorded empty none]

/-- Only a scroll without hits and without a token tells that no hit is left. -/
theorem hasNext_false (t : Transport σ) {s : Scroll} {w : σ}
    (told : (s.hasNext t w).1 = .ok false) :
    (s.hasNext t w).2.1.queue = [] ∧ (s.hasNext t w).2.1.token = none := by
  have look := s.hasNext_look t w
  generalize s.hasNext t w = result at look told ⊢
  generalize s.asked t w = news at look
  cases look with
  | queued | failed => simp at told
  | ended empty none => exact ⟨empty, none⟩
  | @fetched token page _ _ _ =>
    have empty : page.hits.hits = [] := by simpa using told
    simp [receive, empty]

theorem asked_length (t : Transport σ) (s : Scroll) (w : σ) : (s.asked t w).length ≤ 1 := by
  simp only [asked]
  cases s.request? <;> simp

theorem asked_queued (t : Transport σ) {s : Scroll} (w : σ) (left : s.queue ≠ []) :
    s.asked t w = [] := by
  simp [asked, request?, left]

/-- After any calls on a scroll: a further call to look for a hit or to give one out sends one
continuation at most, and none while a hit is queued; all that was sent are continuations with the
keep-alive of the scroll and the token of the reply decoded last before; and if the scroll now
tells that no hit is left, it has neither a hit nor a token, and whatever it is asked afterwards,
nothing is sent any more and it has nothing to give. -/
theorem cursor_discipline (t : Transport σ) (w : σ) (keepAlive : String)
    (initial : Reply.SearchResult) (calls : List Call) :
    let run := (start keepAlive initial).performAll t w calls
    let s := run.2.1
    let looked := s.hasNext t run.2.2
    (∀ c ∈ [Call.hasNext, Call.next], (s.transcript t run.2.2 [c]).length ≤ 1 ∧
      (s.queue ≠ [] → s.transcript t run.2.2 [c] = [])) ∧
    FollowsCursor keepAlive initial ((start keepAlive initial).transcript t w calls) ∧
    (looked.1 = .ok false → looked.2.1.queue = [] ∧ looked.2.1.token = none ∧
      ∀ later, looked.2.1.transcript t looked.2.2 later = [] ∧
        (looked.2.1.performAll t looked.2.2 later).1 = later.map answerAtEnd) := by
  intro run s looked
  refine ⟨?_, ?_, ?_⟩
  · intro c single
    have asks : s.transcript t run.2.2 [c] = s.asked t run.2.2 := by
      simp only [List.mem_cons, List.not_mem_nil, or_false] at single
      rcases single with rfl | rfl
      · exact transcript_hasNext t s run.2.2
      · exact transcript_next t s run.2.2
    rw [asks]
    exact ⟨asked_length t s run.2.2, asked_queued t run.2.2⟩
  · exact ((start_onCursor keepAlive initial).performAll t w calls).follows
  · intro told
    obtain ⟨empty, none⟩ := hasNext_false t told
    refine ⟨empty, none, fun later => ?_⟩
    exact ⟨transcript_ended t empty none looked.2.2 later,
      congrArg Prod.fst (performAll_ended t empty none looked.2.2 later)⟩

end PortableSearch.Scroll
