import PortableSearch.Proofs.Scroll.FailedFetch

/-! Looking ahead changes nothing that is given out. Where all pages arrive, a call for the next hit
gives the same hit however often and wherever it has been asked before whether one is left, and by
then the same continuations have been sent and the scroll is the same. -/
namespace PortableSearch.Scroll
variable {σ : Type} {t : Transport σ} {s : Scroll} {w : σ}

/-- Every continuation of a record succeeded, and its reply was decoded. -/
def AllArrived (record : List Exchange) : Prop := ∀ e ∈ record, ∃ page, page? e = some page

theorem allArrived_append {first second : List Exchange} :
    AllArrived (first ++ second) ↔ AllArrived first ∧ AllArrived second :=
  List.forall_mem_append

/-! One look -/

/-- After a look whose page arrived, a further look needs none. -/
theorem hasNext_arrived (arrived : AllArrived (s.asked t w)) :
    ∃ left, (s.hasNext t w).1 = .ok left ∧ (s.hasNext t w).2.1.request? = none := by
  have look := s.hasNext_look t w
  generalize s.hasNext t w = result at look ⊢
  generalize s.asked t w = news at look arrived
  cases look with
  | queued left => exact ⟨true, rfl, by simp [request?, left]⟩
  | ended empty none => exact ⟨false, rfl, by simp [request?, empty, none]⟩
  | failed _ _ came =>
    obtain ⟨page, found⟩ := arrived _ List.mem_cons_self
    simp [page?, came, Except.toOption] at found
  | @fetched token page _ _ _ =>
    refine ⟨!page.hits.hits.isEmpty, rfl, ?_⟩
    cases hits : page.hits.hits <;> simp [request?, receive, hits]

theorem asked_settled (settled : s.request? = none) : s.asked t w = [] := by
  simp [asked, settled]

/-- A hit is given out from what a look has left as it would have been without the look. -/
theorem next_after_look (arrived : AllArrived (s.asked t w)) :
    (s.hasNext t w).2.1.next t (s.hasNext t w).2.2 = s.next t w := by
  obtain ⟨left, told, settled⟩ := hasNext_arrived arrived
  simp only [next]
  generalize s.hasNext t w = looked at told settled ⊢
  obtain ⟨_, after, w'⟩ := looked
  cases told
  simp only [hasNext, settled]

/-- Where all pages arrive, only the end of the hits keeps a hit from being given out. -/
theorem next_arrived (arrived : AllArrived (s.asked t w)) :
    (∃ hit, (s.next t w).1 = .ok hit) ∨ (s.next t w).1 = .error .exhausted := by
  obtain ⟨left, told, -⟩ := hasNext_arrived arrived
  simp only [next]
  generalize s.hasNext t w = looked at told ⊢
  obtain ⟨_, after, w'⟩ := looked
  cases told
  cases queue : after.queue with
  | nil => exact .inr (by simp [queue])
  | cons hit rest => exact .inl ⟨hit, by simp [queue]⟩

/-! Runs -/

/-- Two runs agree on the call for a hit that ends them: it has the same answer, and leaves the
same scroll, the same transport and the same exchanges. -/
structure GiveAlike (t : Transport σ) (s : Scroll) (w : σ) (calls calls' : List Call) : Prop where
  given : let run := s.performAll t w calls
    let run' := s.performAll t w calls'
    run.2.1.next t run.2.2 = run'.2.1.next t run'.2.2
  exchanged : s.transcript t w (calls ++ [.next]) = s.transcript t w (calls' ++ [.next])

theorem transcript_next_cons (t : Transport σ) (s : Scroll) (w : σ) (calls : List Call) :
    s.transcript t w (.next :: calls) =
      s.asked t w ++ (s.next t w).2.1.transcript t (s.next t w).2.2 calls := by
  rw [transcript_cons, transcript_next]
  rfl

theorem transcript_look_cons (t : Transport σ) (s : Scroll) (w : σ) (calls : List Call) :
    s.transcript t w (.hasNext :: calls) =
      s.asked t w ++ (s.hasNext t w).2.1.transcript t (s.hasNext t w).2.2 calls := by
  rw [transcript_cons, transcript_hasNext]
  rfl

/-- Calls for hits give after a look what they would have given without it. -/
theorem nexts_after_look (arrived : AllArrived (s.asked t w)) (n : Nat) :
    let looked := s.hasNext t w
    let run := looked.2.1.performAll t looked.2.2 (List.replicate n .next)
    let run' := s.performAll t w (List.replicate n .next)
    run.2.1.next t run.2.2 = run'.2.1.next t run'.2.2 ∧
      s.asked t w ++ looked.2.1.transcript t looked.2.2 (List.replicate (n + 1) .next) =
        s.transcript t w (List.replicate (n + 1) .next) := by
  intro looked run run'
  have same : looked.2.1.next t looked.2.2 = s.next t w := next_after_look arrived
  obtain ⟨-, -, settled⟩ := hasNext_arrived arrived
  constructor
  · cases n with
    | zero => exact same
    | succ n =>
      simp only [run, run', List.replicate_succ, performAll, perform]
      rw [same]
  · rw [List.replicate_succ, transcript_next_cons, transcript_next_cons, asked_settled settled,
      same, List.nil_append]

/-- Without the looks a run gives the same. It is enough that the pages of one of the two runs
arrive. -/
theorem giveAlike_without_looks (calls : List Call) (single : ∀ pages, .drain pages ∉ calls)
    (arrived : AllArrived (s.transcript t w (calls ++ [.next])) ∨
      AllArrived (s.transcript t w (List.replicate (calls.count .next + 1) .next))) :
    GiveAlike t s w calls (List.replicate (calls.count .next) .next) := by
  induction calls generalizing s w with
  | nil => exact ⟨rfl, rfl⟩
  | cons c calls ih =>
    have rest : ∀ pages, .drain pages ∉ calls := fun pages inside =>
      single pages (List.mem_cons_of_mem _ inside)
    cases c with
    | drain pages => exact absurd List.mem_cons_self (single pages)
    | next =>
      rw [List.count_cons_self] at arrived ⊢
      rw [List.replicate_succ] at arrived ⊢
      simp only [List.cons_append, transcript_next_cons, allArrived_append] at arrived
      obtain ⟨given, exchanged⟩ := ih rest (arrived.imp And.right And.right)
      refine ⟨given, ?_⟩
      simp only [List.cons_append, transcript_next_cons, exchanged]
    | hasNext =>
      have looks : (Call.hasNext :: calls).count .next = calls.count .next :=
        List.count_cons_of_ne (by decide)
      rw [looks] at arrived ⊢
      rw [List.cons_append, transcript_look_cons, allArrived_append] at arrived
      have first : AllArrived (s.asked t w) := by
        rcases arrived with looking | plain
        · exact looking.1
        · rw [List.replicate_succ, transcript_next_cons, allArrived_append] at plain
          exact plain.1
      obtain ⟨same, sent⟩ := nexts_after_look first (calls.count .next)
      have later : AllArrived ((s.hasNext t w).2.1.transcript t (s.hasNext t w).2.2
          (calls ++ [.next])) ∨ AllArrived ((s.hasNext t w).2.1.transcript t (s.hasNext t w).2.2
            (List.replicate (calls.count .next + 1) .next)) := by
        rw [← sent, allArrived_append] at arrived
        exact arrived.imp And.right And.right
      obtain ⟨given, exchanged⟩ := ih rest later
      refine ⟨given.trans same, ?_⟩
      rw [List.cons_append, transcript_look_cons, exchanged, ← List.replicate_succ', sent]

/-- Two runs of single calls that differ only in looks for a further hit: the same call for a hit,
counted among the calls for hits, gives both the same hit, or tells both that none is left, and
leaves both with the same scroll, the same transport and the same exchanges. Of the continuations
only those of the one run up to that call have to bring pages. -/
theorem looks_invisible (t : Transport σ) (w : σ) (keepAlive : String)
    (initial : Reply.SearchResult) {calls calls' earlier earlier' later later' : List Call}
    (single : ∀ pages, .drain pages ∉ calls)
    (alike : calls.filter (· ≠ .hasNext) = calls'.filter (· ≠ .hasNext))
    (one : calls = earlier ++ .next :: later) (other : calls' = earlier' ++ .next :: later')
    (asOften : earlier.count .next = earlier'.count .next)
    (arrived : AllArrived ((start keepAlive initial).transcript t w (earlier ++ [.next]))) :
    let s := start keepAlive initial
    let run := s.performAll t w earlier
    let run' := s.performAll t w earlier'
    let given := run.2.1.next t run.2.2
    ((∃ hit, given.1 = .ok hit) ∨ given.1 = .error .exhausted) ∧
    run'.2.1.next t run'.2.2 = given ∧
    s.transcript t w (earlier' ++ [.next]) = s.transcript t w (earlier ++ [.next]) := by
  intro s run run' given
  have undrained : ∀ pages, .drain pages ∉ calls' := by
    intro pages inside
    have kept : Call.drain pages ∈ calls'.filter (· ≠ .hasNext) :=
      List.mem_filter.mpr ⟨inside, by simp⟩
    rw [← alike] at kept
    exact single pages (List.mem_filter.mp kept).1
  have front : ∀ pages, .drain pages ∉ earlier := fun pages inside =>
    single pages (one ▸ List.mem_append_left _ inside)
  have front' : ∀ pages, .drain pages ∉ earlier' := fun pages inside =>
    undrained pages (other ▸ List.mem_append_left _ inside)
  have plain : GiveAlike t s w earlier (List.replicate (earlier.count .next) .next) :=
    giveAlike_without_looks earlier front (.inl arrived)
  have plainly : AllArrived (s.transcript t w (List.replicate (earlier.count .next + 1) .next)) := by
    rw [List.replicate_succ', ← plain.exchanged]
    exact arrived
  have plain' : GiveAlike t s w earlier' (List.replicate (earlier'.count .next) .next) :=
    giveAlike_without_looks earlier' front' (.inr (asOften ▸ plainly))
  rw [← asOften] at plain'
  have last : AllArrived (run.2.1.asked t run.2.2) := by
    rw [transcript_append, transcript_next, allArrived_append] at arrived
    exact arrived.2
  exact ⟨next_arrived last, plain'.given.trans plain.given.symm,
    plain'.exchanged.trans plain.exchanged.symm⟩

/-- A hit to start with, a page with a hit and a page without hits. In both runs the third call for a
hit is told that none is left, by the empty page, which the one run fetches for the call and the
other with a look before it. -/
theorem looks_invisible_at_end :
    let hit (id : String) : Reply.Hit := ⟨none, none, some id, none, none, none, []⟩
    let initial : Reply.SearchResult :=
      ⟨1, false, ⟨1, 1, 0, []⟩, some "s0", ⟨2, none, [hit "a"]⟩, [], []⟩
    let page (hits : List Value) : Reaction := .ok (.data (.obj [("took", .int 1),
      ("_scroll_id", .str "s1"), ("hits", .obj [("total", .int 2), ("hits", .list hits)])]))
    let script : Script :=
      ⟨.error (.timeout "slow"), [page [.obj [("_id", .str "b")]], page []], []⟩
    let s := start "1m" initial
    let earlier : List Call := [.next, .next]
    let earlier' : List Call := [.hasNext, .next, .hasNext, .hasNext, .next, .hasNext, .hasNext]
    let run := s.performAll Script.transport script earlier
    let run' := s.performAll Script.transport script earlier'
    let given := run.2.1.next Script.transport run.2.2
    AllArrived (s.transcript Script.transport script (earlier ++ [.next])) ∧
    (s.transcript Script.transport script earlier).length = 1 ∧
    (s.transcript Script.transport script earlier').length = 2 ∧
    given.1 = .error .exhausted ∧ run'.2.1.next Script.transport run'.2.2 = given ∧
    s.transcript Script.transport script (earlier' ++ [.next]) =
      s.transcript Script.transport script (earlier ++ [.next]) := by
  intro hit initial page script s earlier earlier' run run' given
  have arrived : AllArrived (s.transcript Script.transport script (earlier ++ [.next])) := by
    have brought : s.transcript Script.transport script (earlier ++ [.next]) =
        [.page ⟨"1m", "s0"⟩ (page [.obj [("_id", .str "b")]]), .page ⟨"1m", "s1"⟩ (page [])] := rfl
    rw [brought]
    intro e inside
    simp only [List.mem_cons, List.not_mem_nil, or_false] at inside
    rcases inside with rfl | rfl <;> exact ⟨_, rfl⟩
  have single : ∀ pages, .drain pages ∉ earlier ++ [Call.next] := by simp [earlier]
  have alike : (earlier ++ [Call.next]).filter (· ≠ Call.hasNext) =
      (earlier' ++ [Call.next]).filter (· ≠ Call.hasNext) := by decide
  have asOften : earlier.count Call.next = earlier'.count Call.next := by decide
  obtain ⟨-, same, exchanged⟩ :=
    looks_invisible Script.transport script "1m" initial single alike rfl rfl asOften arrived
  exact ⟨arrived, rfl, rfl, rfl, same, exchanged⟩

end PortableSearch.Scroll
