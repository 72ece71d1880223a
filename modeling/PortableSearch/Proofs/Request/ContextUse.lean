import PortableSearch.Proofs.Request.BodyShape
import PortableSearch.Proofs.Request.FirstFault
import PortableSearch.Proofs.Request.ZoneReach

/-! What a request takes from the context that it is compiled in. The zone is read where a part
names none itself, and the moment of `now` where a bound begins with it. Two contexts that agree on
what is read give one outcome, the same body or the same fault. -/
namespace PortableSearch
open Calendar

namespace Context

/-- Both contexts say what `now` means, and mean one moment. -/
def SameNow (c₁ c₂ : Context) : Prop :=
  ∃ m₁ m₂, c₁.now = some m₁ ∧ c₂.now = some m₂ ∧ m₁.utc = m₂.utc

/-- A part has a zone of its own, which says something. -/
def NamesZone (own : Option String) : Prop := ∃ zone, own = some zone ∧ zone ≠ ""

theorem zoneFor_named {own : Option String} (named : NamesZone own) (shared : Option String) :
    zoneFor own shared = own := by
  obtain ⟨zone, rfl, filled⟩ := named
  rw [zoneFor_eq, zoneInEffect, if_neg]
  simpa using filled

theorem anchor_utc {c₁ c₂ : Context} (same : SameNow c₁ c₂) (current₁ current₂ : Moment) :
    (c₁.anchor current₁).utc = (c₂.anchor current₂).utc := by
  have utc (c : Context) (m current : Moment) (set : c.now = some m) :
      (c.anchor current).utc = m.utc := by
    obtain ⟨wall, offset⟩ := m
    rw [anchor, set]
    cases offset <;> rfl
  obtain ⟨m₁, m₂, set₁, set₂, equal⟩ := same
  rw [utc c₁ m₁ current₁ set₁, utc c₂ m₂ current₂ set₂, equal]

end Context

namespace Calendar.DateMath

/-- An expression that begins with the word `now` after the blanks before it. -/
def BeginsNow (expression : String) : Prop :=
  ['n', 'o', 'w'] <+: Text.trimEnds Text.isBlank expression.toList

instance (expression : String) : Decidable (BeginsNow expression) :=
  inferInstanceAs (Decidable (_ <+: _))

variable {zone : Zone} {now₁ now₂ : Moment}

theorem readExpression_absolute {cs : List Char} (absolute : ¬ ['n', 'o', 'w'] <+: cs) :
    readExpression zone now₁ cs = readExpression zone now₂ cs := by
  unfold readExpression
  split
  next => rfl
  next math => exact absurd ⟨math, rfl⟩ absolute
  next => rfl

/-- An absolute date does not look at the current moment. -/
theorem evaluate_absolute {expression : String} (absolute : ¬ BeginsNow expression)
    (roundUp : Bool) :
    evaluate zone now₁ roundUp expression = evaluate zone now₂ roundUp expression := by
  rw [evaluate, evaluate, readExpression_absolute absolute]

/-- Of the current moment only the instant counts, not the offset it is written with. -/
theorem evaluate_utc (same : now₁.utc = now₂.utc) (roundUp : Bool) (expression : String) :
    evaluate zone now₁ roundUp expression = evaluate zone now₂ roundUp expression := by
  have read (cs : List Char) : readExpression zone now₁ cs = readExpression zone now₂ cs := by
    simp only [readExpression, anchorAt, same]
  rw [evaluate, evaluate, read]

end Calendar.DateMath

namespace Query

/-- A query by itself reads one zone in both settings: only date math needs one. -/
def ReadsAlike (shared₁ shared₂ : Option String) (q : Query) : Prop :=
  ∀ field bounds own, q = .dateRange field bounds own →
    zoneOfRange bounds own shared₁ = zoneOfRange bounds own shared₂

variable {shared₁ shared₂ : Option String}

theorem zoneOfRange_congr {bounds : Bounds Instant} {own : Option String}
    (same : (∃ s, .expression s ∈ bounds.toList) →
      Context.zoneFor own shared₁ = Context.zoneFor own shared₂) :
    zoneOfRange bounds own shared₁ = zoneOfRange bounds own shared₂ := by
  by_cases math : bounds.toList.any Instant.isExpression = true
  · rw [zoneOfRange, zoneOfRange, if_pos math, if_pos math]
    exact same (Request.anyExpression_iff.mp math)
  · rw [zoneOfRange, zoneOfRange, if_neg math, if_neg math]

mutual

/-- By induction on the query. What combines others reads nothing itself. -/
theorem compile_congr (q : Query) (alike : ∀ p ∈ q.parts, p.ReadsAlike shared₁ shared₂) :
    q.compile shared₁ = q.compile shared₂ := by
  cases q with
  | all of | any of | none of =>
    rw [compile, compile, compileAll_congr of fun p part => alike p (List.mem_cons_of_mem _ part)]
  | dateRange field bounds own =>
    rw [compile, compile, alike _ (self_mem_parts _) field bounds own rfl]
  | presence field expected => cases expected <;> rfl
  | _ => rfl

theorem compileAll_congr (qs : List Query)
    (alike : ∀ p ∈ partsOfEach qs, p.ReadsAlike shared₁ shared₂) :
    compileAll shared₁ qs = compileAll shared₂ qs := by
  cases qs with
  | nil => rfl
  | cons q qs =>
    rw [partsOfEach, List.forall_mem_append] at alike
    rw [compileAll, compileAll, compile_congr q alike.1, compileAll_congr qs alike.2]

end

end Query

namespace Aggregation

/-- What a body reads is the same in both settings. -/
structure Body.ReadsAlike (setting₁ setting₂ : Setting) (body : Body) : Prop where
  date_histogram : ∀ field interval format offset own,
    body = .dateHistogram field interval format offset own →
      Context.zoneFor own setting₁.timeZone = Context.zoneFor own setting₂.timeZone
  date_ranges : ∀ field spans format own, body = .dateRanges field spans format own →
    Context.zoneFor own setting₁.timeZone = Context.zoneFor own setting₂.timeZone ∧
      ∀ s ∈ spans, ∀ expression, .str expression ∈ s.bounds → ∀ zone,
        DateMath.evaluate zone setting₁.anchor false expression =
          DateMath.evaluate zone setting₂.anchor false expression
  filters : ∀ q ∈ body.queries, ∀ p ∈ q.parts,
    p.ReadsAlike setting₁.timeZone setting₂.timeZone

variable {setting₁ setting₂ : Setting}

theorem resolveBound?_congr {zone : Zone} {anchor₁ anchor₂ : Moment} {bound : Option Value}
    (same : ∀ expression, .str expression ∈ bound.toList →
      DateMath.evaluate zone anchor₁ false expression =
        DateMath.evaluate zone anchor₂ false expression) :
    resolveBound? zone anchor₁ bound = resolveBound? zone anchor₂ bound := by
  cases bound with
  | none => rfl
  | some v =>
    cases v with
    | str expression =>
      rw [resolveBound?, resolveBound?, resolveBound, resolveBound, same expression (by simp)]
    | _ => rfl

theorem resolve_congr {zone : Zone} {anchor₁ anchor₂ : Moment} {s : Span}
    (same : ∀ expression, .str expression ∈ s.bounds →
      DateMath.evaluate zone anchor₁ false expression =
        DateMath.evaluate zone anchor₂ false expression) :
    s.resolve zone anchor₁ = s.resolve zone anchor₂ := by
  have start := resolveBound?_congr fun expression inside =>
    same expression (List.mem_append_left _ inside)
  have stop := resolveBound?_congr fun expression inside =>
    same expression (List.mem_append_right _ inside)
  rw [Span.resolve, Span.resolve, start, stop]

theorem Body.compile_congr {key : String} {body : Body}
    (alike : body.ReadsAlike setting₁ setting₂) :
    body.compile setting₁ key = body.compile setting₂ key := by
  cases body with
  | dateHistogram field interval format offset own =>
    rw [Body.compile, Body.compile, alike.date_histogram _ _ _ _ _ rfl]
  | dateRanges field spans format own =>
    obtain ⟨zone, bounds⟩ := alike.date_ranges _ _ _ _ rfl
    have resolved (zone : Zone) : spans.mapM (Span.resolve zone setting₁.anchor) =
        spans.mapM (Span.resolve zone setting₂.anchor) := by
      apply mapM_congr
      intro s inside
      exact resolve_congr fun expression bound => bounds s inside expression bound zone
    simp only [Body.compile, zone, resolved]
  | filters queries =>
    have bodies : queries.mapM (compileFilter setting₁.timeZone) =
        queries.mapM (compileFilter setting₂.timeZone) := by
      apply mapM_congr
      intro named inside
      rw [compileFilter, compileFilter, Query.compile_congr named.2]
      exact alike.filters _ (List.mem_map_of_mem inside)
    rw [Body.compile, Body.compile, bodies]
  | _ => rfl

mutual

/-- By induction on the aggregation: its children are parts of it, and so is it itself. -/
theorem entry_congr (a : Aggregation)
    (alike : ∀ p ∈ a.parts, p.body.ReadsAlike setting₁ setting₂) :
    entry setting₁ a = entry setting₂ a := by
  obtain ⟨key, body, count, children⟩ := a
  rw [parts, List.forall_mem_append] at alike
  have own : body.compile setting₁ key = body.compile setting₂ key :=
    Body.compile_congr (alike.2 _ List.mem_cons_self)
  have below := named_congr children alike.1
  simp only [entry_eq, compileChildren_eq, compileAll_eq, Aggregation.children, Aggregation.body,
    Aggregation.key, own, below]

theorem named_congr (as : List Aggregation)
    (alike : ∀ p ∈ partsOfEach as, p.body.ReadsAlike setting₁ setting₂) :
    as.mapM (named setting₁) = as.mapM (named setting₂) := by
  cases as with
  | nil => rfl
  | cons a as =>
    rw [partsOfEach, List.forall_mem_append] at alike
    rw [List.mapM_cons, List.mapM_cons, named_congr as alike.2, named, named,
      entry_congr a alike.1]

end

theorem compileAll_congr {as : List Aggregation}
    (alike : ∀ p ∈ partsOfEach as, p.body.ReadsAlike setting₁ setting₂) :
    compileAll setting₁ as = compileAll setting₂ as := by
  rw [compileAll_eq, compileAll_eq, named_congr as alike]

end Aggregation

namespace Request

/-- Every part that may take its zone from the context names one itself. -/
structure NamesZones (r : Request) : Prop where
  date_range : ∀ field bounds own, .dateRange field bounds own ∈ r.queries →
    (∃ s, .expression s ∈ bounds.toList) → Context.NamesZone own
  date_histogram : ∀ a ∈ Aggregation.partsOfEach r.aggregations,
    ∀ field interval format offset own, a.body = .dateHistogram field interval format offset own →
      Context.NamesZone own
  date_ranges : ∀ a ∈ Aggregation.partsOfEach r.aggregations,
    ∀ field spans format own, a.body = .dateRanges field spans format own → Context.NamesZone own

/-- No bound of ranges of dates begins with `now`. -/
def BoundsAbsolute (r : Request) : Prop :=
  ∀ a ∈ Aggregation.partsOfEach r.aggregations, ∀ field spans format own,
    a.body = .dateRanges field spans format own → ∀ s ∈ spans, ∀ expression,
      .str expression ∈ s.bounds → ¬ DateMath.BeginsNow expression

variable {r : Request} {current₁ current₂ : Moment} {c₁ c₂ : Context}

theorem mem_queries_of_query {q p : Query} (asked : r.query = some q) (part : p ∈ q.parts) :
    p ∈ r.queries := by
  refine List.mem_append_left _ (List.mem_flatMap.mpr ⟨q, ?_, part⟩)
  rw [asked]
  exact List.mem_cons_self

theorem mem_queries_of_filter {a : Aggregation} {q p : Query}
    (inside : a ∈ Aggregation.partsOfEach r.aggregations) (filter : q ∈ a.body.queries)
    (part : p ∈ q.parts) : p ∈ r.queries :=
  List.mem_append_right _
    (List.mem_flatMap.mpr ⟨q, List.mem_flatMap.mpr ⟨a, inside, filter⟩, part⟩)

theorem compileIn_congr (queries : ∀ p ∈ r.queries, p.ReadsAlike c₁.timeZone c₂.timeZone)
    (aggregations : ∀ a ∈ Aggregation.partsOfEach r.aggregations,
      a.body.ReadsAlike (.ofContext current₁ c₁) (.ofContext current₂ c₂)) :
    r.compileIn current₁ c₁ = r.compileIn current₂ c₂ := by
  have query : compileQuery c₁.timeZone r.query = compileQuery c₂.timeZone r.query := by
    cases asked : r.query with
    | none => rfl
    | some q =>
      rw [compileQuery, compileQuery, Query.compile_congr q]
      exact fun p part => queries p (mem_queries_of_query asked part)
  rw [compileIn, compileIn, query, Aggregation.compileAll_congr aggregations]

theorem compileIn_ownZones (zones : r.NamesZones) (now : Context.SameNow c₁ c₂) :
    r.compileIn current₁ c₁ = r.compileIn current₂ c₂ := by
  have utc := Context.anchor_utc now current₁ current₂
  have alike : ∀ p ∈ r.queries, p.ReadsAlike c₁.timeZone c₂.timeZone := by
    rintro _ inside field bounds own rfl
    apply Query.zoneOfRange_congr
    intro math
    have named := zones.date_range field bounds own inside math
    rw [Context.zoneFor_named named, Context.zoneFor_named named]
  apply compileIn_congr alike
  intro a inside
  constructor
  case date_histogram =>
    intro field interval format offset own body
    have named := zones.date_histogram a inside _ _ _ _ _ body
    rw [Context.zoneFor_named named, Context.zoneFor_named named]
  case date_ranges =>
    intro field spans format own body
    have named := zones.date_ranges a inside _ _ _ _ body
    constructor
    · rw [Context.zoneFor_named named, Context.zoneFor_named named]
    · intro s _ expression _ zone
      exact DateMath.evaluate_utc utc false expression
  case filters => exact fun q filter p part => alike p (mem_queries_of_filter inside filter part)

theorem compileIn_absolute (absolute : r.BoundsAbsolute) (zone : c₁.timeZone = c₂.timeZone) :
    r.compileIn current₁ c₁ = r.compileIn current₂ c₂ := by
  have alike (p : Query) : p.ReadsAlike c₁.timeZone c₂.timeZone := by
    intro field bounds own _
    rw [zone]
  apply compileIn_congr fun p _ => alike p
  intro a inside
  constructor
  case date_histogram =>
    intro field interval format offset own _
    exact congrArg (Context.zoneFor own) zone
  case date_ranges =>
    intro field spans format own body
    constructor
    · exact congrArg (Context.zoneFor own) zone
    · intro s member expression bound zone
      exact DateMath.evaluate_absolute (absolute a inside _ _ _ _ body s member _ bound) false
  case filters => exact fun q _ p _ => alike p

/-- Two contexts give a request one outcome, at any two current moments, where they agree on what
the request reads. -/
theorem compile_noninterference (r : Request) (c₁ c₂ : Context) (current₁ current₂ : Moment)
    (fallback₁ fallback₂ : Option String) :
    (c₁.SameNow c₂ → r.NamesZones →
      r.compile current₁ fallback₁ (some c₁) = r.compile current₂ fallback₂ (some c₂)) ∧
    (c₁.timeZone = c₂.timeZone → r.BoundsAbsolute →
      r.compile current₁ fallback₁ (some c₁) = r.compile current₂ fallback₂ (some c₂)) := by
  have whole (current : Moment) (fallback : Option String) (c : Context) :
      r.compile current fallback (some c) = (r.compileIn current c).mapError .compile := rfl
  rw [whole, whole]
  constructor
  · intro now zones
    rw [compileIn_ownZones zones now]
  · intro zone absolute
    rw [compileIn_absolute absolute zone]

/-- In one case every part has a zone of its own, also the query of a bucket and what is computed
within the bucket, and the contexts write one moment in two ways. In the other the bound is a date,
and the contexts are a day apart. -/
theorem elsewhere_or_later :
    let recent (own : Option String) : Query :=
      .dateRange "at" ⟨some (.expression "now-1d"), none, none, none⟩ own
    let days (own : Option String) : Aggregation.Body := .dateHistogram "at" "day" none none own
    let old (own : Option String) (bound : String) : Aggregation.Body :=
      .dateRanges "at" [⟨none, none, some (.str bound)⟩] none own
    let r (own : Option String) (bound : String) : Request :=
      ⟨0, none, some (.none [recent own]), [.mk "by" (.filters [("new", recent own)]) none
        [.mk "days" (days own) none [], .mk "old" (old own bound) none []]], [], [], none, []⟩
    let here : Context := ⟨some "UTC", some ⟨0, none⟩⟩
    let elsewhere : Context := ⟨some "-03:00", some ⟨7200000000, some 7200⟩⟩
    let later : Context := ⟨some "UTC", some ⟨86400000000, some 0⟩⟩
    let current : Moment := ⟨0, some 0⟩
    (here.SameNow elsewhere ∧ (r (some "+02:00") "now/d").NamesZones ∧
      (r (some "+02:00") "now/d").compile current none (some here) =
        (r (some "+02:00") "now/d").compile current none (some elsewhere)) ∧
    (here.timeZone = later.timeZone ∧ (r none " 2014-11-18||/d").BoundsAbsolute ∧
      (r none " 2014-11-18||/d").compile current none (some here) =
        (r none " 2014-11-18||/d").compile current none (some later)) := by
  intro recent days old r here elsewhere later current
  have bodies (own : Option String) (bound : String) :
      ∀ a ∈ Aggregation.partsOfEach (r own bound).aggregations,
        a.body = days own ∨ a.body = old own bound ∨ a.body = .filters [("new", recent own)] := by
    intro a inside
    simp only [r, Aggregation.partsOfEach, Aggregation.parts, List.append_nil, List.nil_append,
      List.cons_append, List.mem_cons, List.not_mem_nil, or_false] at inside
    exact inside.imp (congrArg Aggregation.body) fun later =>
      later.imp (congrArg Aggregation.body) (congrArg Aggregation.body)
  have moment : here.SameNow elsewhere := ⟨_, _, rfl, rfl, rfl⟩
  have named : Context.NamesZone (some "+02:00") := ⟨_, rfl, by decide⟩
  have zones : (r (some "+02:00") "now/d").NamesZones := by
    constructor
    case date_range =>
      intro field bounds own inside _
      have ranges : ∀ q ∈ (r (some "+02:00") "now/d").queries,
          q = .none [recent (some "+02:00")] ∨ q = recent (some "+02:00") := by
        simp [r, queries, Query.parts, Query.partsOfEach, Aggregation.partsOfEach,
          Aggregation.parts, Aggregation.body, Aggregation.Body.queries, recent, days, old]
      rcases ranges _ inside with combined | single
      · cases combined
      · cases single
        exact named
    case date_histogram =>
      intro a inside field interval format offset own body
      rcases bodies _ _ a inside with same | same | same <;> cases same.symm.trans body
      exact named
    case date_ranges =>
      intro a inside field spans format own body
      rcases bodies _ _ a inside with same | same | same <;> cases same.symm.trans body
      exact named
  have absolute : (r none " 2014-11-18||/d").BoundsAbsolute := by
    intro a inside field spans format own body s member expression bound
    rcases bodies _ _ a inside with same | same | same <;> cases same.symm.trans body
    cases List.mem_singleton.mp member
    cases List.mem_singleton.mp bound
    decide
  exact ⟨⟨moment, zones, (compile_noninterference _ _ _ current current none none).1 moment zones⟩,
    rfl, absolute, (compile_noninterference _ _ _ current current none none).2 rfl absolute⟩

end Request

end PortableSearch
