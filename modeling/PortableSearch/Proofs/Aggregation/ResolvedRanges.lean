import PortableSearch.Proofs.Aggregation.MillisText
import PortableSearch.Proofs.Request.ZoneReach

/-! Date ranges are sent resolved. Their bounds are resolved when they are compiled, each on its
own, and no other part of an aggregation looks at the moment of compilation. A forest whose bounds
have been replaced by the numbers that they mean is therefore compiled as before, at any moment. -/
namespace PortableSearch
open Calendar

/-- What is sent for a bound of a date range: the number that a text or a moment means, and nothing
for null. -/
inductive BoundResolved (zone : Zone) (now : Moment) : Option Value → Option Value → Prop
  | absent : BoundResolved zone now none none
  | null : BoundResolved zone now (some .null) none
  | text {s : String} {millis : Int} : DateMath.evaluate zone now false s = .ok millis →
    BoundResolved zone now (some (.str s)) (some (.int millis))
  | moment {m : Moment} : BoundResolved zone now (some (.moment m)) (some (.int m.epochMillis))
  | own {v : Value} : v ≠ .null → (∀ s, v ≠ .str s) → (∀ m, v ≠ .moment m) →
    BoundResolved zone now (some v) (some v)

theorem BoundResolved.unique {zone : Zone} {now : Moment} {bound sent sent' : Option Value}
    (first : BoundResolved zone now bound sent) (second : BoundResolved zone now bound sent') :
    sent = sent' := by
  cases first with
  | absent | null => cases second <;> first | rfl | contradiction
  | text evaluated =>
    cases second with
    | text evaluated' =>
      cases evaluated.symm.trans evaluated'
      rfl
    | own _ noText _ => exact absurd rfl (noText _)
  | moment =>
    cases second with
    | moment => rfl
    | own _ _ noMoment => exact absurd rfl (noMoment _)
  | own filled noText noMoment =>
    cases second with
    | null => exact absurd rfl filled
    | text => exact absurd rfl (noText _)
    | moment => exact absurd rfl (noMoment _)
    | own => rfl

/-- What is sent for a span of a date range. -/
structure RangeResolved (zone : Zone) (now : Moment) (span : Span) (sent : Members) : Prop where
  key : sent.lookup "key" = span.key.map .str
  start : BoundResolved zone now span.start (sent.lookup "from")
  stop : BoundResolved zone now span.stop (sent.lookup "to")

/-- A bound with the number that it means in the place of a text or a moment. -/
def Value.numbered (zone : Zone) (now : Moment) (v : Value) : Value :=
  match resolveBound zone now v with
  | .ok resolved => resolved
  | .error _ => v

def Span.numbered (zone : Zone) (now : Moment) (s : Span) : Span :=
  ⟨s.key, s.start.map (Value.numbered zone now), s.stop.map (Value.numbered zone now)⟩

variable {zone : Zone} {now : Moment}

theorem resolveBound?_resolved {bound resolved : Option Value}
    (made : resolveBound? zone now bound = .ok resolved) :
    BoundResolved zone now bound (Value.ofOption id resolved).present? := by
  cases bound with
  | none =>
    cases made
    exact .absent
  | some v =>
    obtain ⟨w, number, rfl⟩ := map_ok.mp made
    cases v with
    | null =>
      cases number
      exact .null
    | str s =>
      rw [resolveBound] at number
      split at number
      next millis evaluated =>
        cases number
        exact .text evaluated
      next => cases number
    | moment m =>
      cases number
      exact .moment
    | _ =>
      cases number
      exact .own (by simp) (by simp) (by simp)

theorem resolve_range {span resolved : Span} (made : span.resolve zone now = .ok resolved) :
    ∃ sent, resolved.body = .obj sent ∧ RangeResolved zone now span sent := by
  obtain ⟨start, first, rest⟩ := bind_ok.mp made
  obtain ⟨stop, second, whole⟩ := bind_ok.mp rest
  cases whole
  refine ⟨_, rfl, ?_, ?_, ?_⟩
  · rw [Members.lookup_compact (by simp)]
    cases span.key <;> rfl
  · rw [Members.lookup_compact (by simp)]
    exact resolveBound?_resolved first
  · rw [Members.lookup_compact (by simp)]
    exact resolveBound?_resolved second

theorem resolve_ranges {spans resolved : List Span}
    (made : spans.mapM (Span.resolve zone now) = .ok resolved) :
    ∃ ranges, resolved.map Span.body = ranges.map .obj ∧
      List.Forall₂ (RangeResolved zone now) spans ranges := by
  have each := mapM_ok_iff.mp made
  clear made
  induction each with
  | nil => exact ⟨[], rfl, .nil⟩
  | cons first _ ih =>
    obtain ⟨sent, body, range⟩ := resolve_range first
    obtain ⟨ranges, bodies, rest⟩ := ih
    exact ⟨sent :: ranges, by rw [List.map_cons, List.map_cons, body, bodies], .cons range rest⟩

theorem resolveBound?_numbered {bound resolved : Option Value}
    (made : resolveBound? zone now bound = .ok resolved) :
    bound.map (Value.numbered zone now) = resolved := by
  cases bound with
  | none =>
    cases made
    rfl
  | some v =>
    obtain ⟨w, number, rfl⟩ := map_ok.mp made
    rw [Option.map_some, Value.numbered, number]

theorem resolve_numbered {span resolved : Span} (made : span.resolve zone now = .ok resolved) :
    span.numbered zone now = resolved := by
  obtain ⟨start, first, rest⟩ := bind_ok.mp made
  obtain ⟨stop, second, whole⟩ := bind_ok.mp rest
  cases whole
  rw [Span.numbered, resolveBound?_numbered first, resolveBound?_numbered second]

/-- Spans whose bounds are numbered are what they resolve to. -/
theorem resolveEach_numbered {spans resolved : List Span}
    (made : spans.mapM (Span.resolve zone now) = .ok resolved) :
    spans.map (Span.numbered zone now) = resolved := by
  have each := mapM_ok_iff.mp made
  clear made
  induction each with
  | nil => rfl
  | cons first _ ih => rw [List.map_cons, resolve_numbered first, ih]

/-- What spans resolve to resolves to itself. -/
theorem resolveEach_again {spans resolved : List Span}
    (made : spans.mapM (Span.resolve zone now) = .ok resolved) (later : Moment) :
    resolved.mapM (Span.resolve zone later) = .ok resolved := by
  have each := mapM_ok_iff.mp made
  rw [mapM_ok_iff]
  clear made
  induction each with
  | nil => exact .nil
  | cons first _ ih =>
    exact .cons (Aggregation.SpanWrittenBack.resolve first ⟨rfl, .kept, .kept⟩ later) ih

namespace Aggregation

/-- The body with the bounds of its date ranges numbered, if it has any. -/
def Body.numbered (setting : Setting) : Body → Body
  | .dateRanges field spans format own =>
    match Zone.named (Context.zoneFor own setting.timeZone) with
    | .ok zone => .dateRanges field (spans.map (Span.numbered zone setting.anchor)) format own
    | .error _ => .dateRanges field spans format own
  | body => body

mutual

/-- The aggregation with the bounds of all date ranges in it numbered. -/
def numbered (setting : Setting) : Aggregation → Aggregation
  | mk key body count children =>
    mk key (body.numbered setting) count (numberedEach setting children)

def numberedEach (setting : Setting) : List Aggregation → List Aggregation
  | [] => []
  | a :: as => a.numbered setting :: numberedEach setting as

end

variable {setting later : Setting} {key : String}

/-- Numbered date ranges are compiled to what they were compiled to, at whichever moment, and other
bodies do not look at the moment. -/
theorem compile_numbered {body : Body} {content : Content}
    (same : later.timeZone = setting.timeZone)
    (compiled : body.compile setting key = .ok content) :
    (body.numbered setting).compile later key = .ok content := by
  cases body with
  | dateRanges field spans format own =>
    obtain ⟨zone, known, rest⟩ := bind_ok.mp compiled
    obtain ⟨resolved, each, -⟩ := bind_ok.mp rest
    have named : Zone.named (Context.zoneFor own setting.timeZone) = .ok zone :=
      mapError_ok.mp known
    have named' : Zone.named (Context.zoneFor own later.timeZone) = .ok zone := by
      rw [same]
      exact named
    simp only [Body.numbered, named]
    rw [compile_dateRanges key field _ format named', resolveEach_numbered each,
      resolveEach_again each, ← compiled, compile_dateRanges key field spans format named, each]
  | dateHistogram | filters =>
    simp only [Body.numbered, Body.compile, same]
    exact compiled
  | _ => exact compiled

mutual

/-- By induction on the aggregation: its children are compiled before it. -/
theorem entry_numbered (a : Aggregation) {e : Members} (same : later.timeZone = setting.timeZone)
    (compiled : entry setting a = .ok e) : entry later (a.numbered setting) = .ok e := by
  obtain ⟨key, body, count, children⟩ := a
  obtain ⟨nested, content, below, own, made⟩ := entry_ok.mp compiled
  refine entry_ok.mpr ⟨nested, content, ?_, compile_numbered same own, made⟩
  cases children with
  | nil => exact below
  | cons child rest =>
    rw [compileChildren_eq, if_neg (by simp [Aggregation.children])] at below
    obtain ⟨ms, all, rfl⟩ := map_ok.mp below
    obtain ⟨entries, each, rfl⟩ := compileAll_ok.mp all
    have again := named_numbered (child :: rest) same each
    exact (compileChildren_eq ..).trans (map_ok.mpr ⟨_, compileAll_ok.mpr ⟨_, again, rfl⟩, rfl⟩)

theorem named_numbered (as : List Aggregation) {entries : List (String × Value)}
    (same : later.timeZone = setting.timeZone)
    (compiled : as.mapM (named setting) = .ok entries) :
    (numberedEach setting as).mapM (named later) = .ok entries := by
  cases as with
  | nil => exact compiled
  | cons a as =>
    obtain ⟨p, rest, own, others, rfl⟩ := List.forall₂_cons_left_iff.mp (mapM_ok_iff.mp compiled)
    obtain ⟨e, entry, rfl⟩ := named_ok.mp own
    refine mapM_ok_iff.mpr (.cons ?_ (mapM_ok_iff.mp (named_numbered as same ?_)))
    · exact named_ok.mpr ⟨e, entry_numbered a same entry, by cases a; rfl⟩
    · exact mapM_ok_iff.mpr others

end

/-- Every aggregation of date ranges, at whatever depth, is compiled to ranges that are resolved, in
the order of its own. With each text and each moment among their bounds replaced by the number that
it means, the aggregations are compiled to the same object in the same zone, at any moment. -/
theorem compileAll_resolved {as : List Aggregation} {ms : Members} (distinct : DistinctKeys as)
    (compiled : compileAll setting as = .ok ms) :
    (∀ path a field spans format own, Place as path a → a.body = .dateRanges field spans format own →
      ∃ zone body rest ranges,
        Zone.named (Context.zoneInEffect own setting.timeZone) = .ok zone ∧
        (Value.obj ms).At path (.obj (("date_range", .obj body) :: rest)) ∧
        body.lookup "ranges" = some (.list (ranges.map .obj)) ∧
        List.Forall₂ (RangeResolved zone setting.anchor) spans ranges) ∧
    ∀ later : Setting, later.timeZone = setting.timeZone →
      compileAll later (numberedEach setting as) = .ok ms := by
  constructor
  · intro path a field spans format own place body
    obtain ⟨e, entry, found⟩ := entry_place place distinct compiled
    obtain ⟨zone, resolved, content, rest, known, each, rfl, listed⟩ := entry_dateRanges entry body
    obtain ⟨ranges, bodies, sent⟩ := resolve_ranges each
    rw [bodies] at listed
    rw [Context.zoneFor_eq] at known
    exact ⟨zone, content, rest, ranges, known, found, listed, sent⟩
  · intro later same
    obtain ⟨entries, each, rfl⟩ := compileAll_ok.mp compiled
    exact compileAll_ok.mpr ⟨entries, named_numbered as same each, rfl⟩

/-- Date ranges within buckets, with date math, a moment, a number and null among their bounds, and
the same with numbers, which are compiled alike half a century earlier. -/
theorem nested_days_resolved :
    let setting : Setting := ⟨some "+02:00", ⟨1416306615000000, some 0⟩⟩
    let written : List Span := [⟨some "new", some (.str "now/d"), some .null⟩,
      ⟨none, some (.int 5), some (.moment ⟨1416306600000999, none⟩)⟩]
    let numbers : List Span := [⟨some "new", some (.int 1416261600000), some .null⟩,
      ⟨none, some (.int 5), some (.int 1416306600000)⟩]
    let days (spans : List Span) : Aggregation :=
      .mk "days" (.dateRanges "at" spans none none) none []
    let forest (spans : List Span) : List Aggregation :=
      [.mk "by" (.missing "at") none [days spans]]
    DistinctKeys (forest written) ∧ ∃ ms, compileAll setting (forest written) = .ok ms ∧
      (∃ body rest first second, (Value.obj ms).At [.name "by", .name "aggs", .name "days"]
          (.obj (("date_range", .obj body) :: rest)) ∧
        body.lookup "ranges" = some (.list [.obj first, .obj second]) ∧
        first.lookup "from" = some (.int 1416261600000) ∧ first.lookup "to" = none ∧
        second.lookup "from" = some (.int 5) ∧ second.lookup "to" = some (.int 1416306600000)) ∧
      compileAll ⟨some "+02:00", ⟨0, none⟩⟩ (forest numbers) = .ok ms := by
  intro setting written numbers days forest
  have distinct : DistinctKeys (forest written) := by
    intro siblings inside
    rcases inside with _ | ⟨first, inside⟩
    · decide
    cases List.mem_singleton.mp first
    rcases inside with _ | ⟨second, inside⟩
    · decide
    cases List.mem_singleton.mp second
    rcases inside with _ | ⟨third, _⟩
    · decide
    · cases third
  have named : Zone.named (some "+02:00") = .ok (.fixed 7200) := rfl
  have evaluated := Request.day_two_hours_ahead
  have resolved : written.mapM (Span.resolve (.fixed 7200) setting.anchor) = .ok numbers := by
    refine mapM_ok_iff.mpr (.cons ?_ (.cons rfl .nil))
    rw [Span.resolve, resolveBound?, resolveBound, evaluated]
    rfl
  have compiled : ∃ ms, compileAll setting (forest written) = .ok ms := by
    have content : (days written).body.compile setting "days" = _ :=
      compile_dateRanges "days" "at" _ none named
    rw [resolved] at content
    have inner : entry setting (days written) = .ok _ :=
      entry_ok.mpr ⟨none, _, rfl, content, rfl⟩
    have below : ∃ nested, compileChildren setting [days written] = .ok nested := by
      rw [compileChildren_eq, compileAll_singleton, inner]
      exact ⟨_, rfl⟩
    obtain ⟨nested, below⟩ := below
    rw [compileAll_singleton, entry_ok.mpr ⟨nested, _, below, rfl, rfl⟩]
    exact ⟨_, rfl⟩
  obtain ⟨ms, compiled⟩ := compiled
  obtain ⟨sent, again⟩ := compileAll_resolved distinct compiled
  refine ⟨distinct, ms, compiled, ?_, ?_⟩
  · have place : Place (forest written) [.name "by", .name "aggs", .name "days"] (days written) :=
      .nested List.mem_cons_self (.listed List.mem_cons_self)
    obtain ⟨zone, body, rest, ranges, known, found, listed, each⟩ := sent _ _ _ _ _ _ place rfl
    cases known.symm.trans named
    obtain ⟨first, _, one, others, rfl⟩ := List.forall₂_cons_left_iff.mp each
    obtain ⟨second, _, two, none, rfl⟩ := List.forall₂_cons_left_iff.mp others
    cases none
    have five : BoundResolved (.fixed 7200) setting.anchor (some (.int 5)) (some (.int 5)) :=
      .own (by simp) (by simp) (by simp)
    exact ⟨body, rest, first, second, found, listed, one.start.unique (.text evaluated),
      one.stop.unique .null, two.start.unique five, two.stop.unique .moment⟩
  · have same : numberedEach setting (forest written) = forest numbers := by
      show forest (written.map (Span.numbered (.fixed 7200) setting.anchor)) = _
      rw [resolveEach_numbered resolved]
    rw [← same]
    exact again _ rfl

end Aggregation

end PortableSearch
