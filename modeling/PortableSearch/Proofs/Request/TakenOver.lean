import PortableSearch.Proofs.Value.Partwise
import PortableSearch.Proofs.Request.Places

/-! What a request takes over from its caller. Some values are sent as they are: the bounds of
ranges, what stands for missing values, and native bodies. All else that is sent is made of numbers,
texts, lists and objects, so that a property of the parts of values holds of the whole body where it
holds of the values that are taken over. -/
namespace PortableSearch
open Shape (Step)

namespace Query
open Engine (Clause)

/-- The values that a query takes over as they are: the bounds of a range that are set. -/
def callerValues : Query → List Value
  | range _ bounds => bounds.toList.filterMap Value.present?
  | _ => []

variable {P : Value → Prop}

theorem single_holds (whole : Value.Partwise P) {name : String} {v : Value} :
    P (Clause.single name v) ↔ P v := by
  rw [Clause.single, whole.obj, List.forall_mem_singleton]

theorem onField_holds (whole : Value.Partwise P) {clause field : String} {ms : Members}
    (each : ∀ m ∈ ms, ∀ v, m.2.present? = some v → P v) : P (Clause.onField clause field ms) := by
  rw [Clause.onField, single_holds whole, single_holds whole, whole.obj]
  exact Members.each_compact each

theorem texts_holds (whole : Value.Partwise P) (s : Option String) {v : Value}
    (set : (Clause.texts s).present? = some v) : P v := by
  cases s with
  | none => cases set
  | some s =>
    cases set
    exact whole.str s

theorem range_holds (whole : Value.Partwise P) {field : String} {bounds : Bounds Value}
    {timeZone : Option String} (each : ∀ v ∈ bounds.toList.filterMap Value.present?, P v) :
    P (Clause.range field bounds Option.none Option.none timeZone).body := by
  rw [Clause.body]
  apply onField_holds whole
  have bound (o : Option Value) (there : o ∈ [bounds.gte, bounds.gt, bounds.lte, bounds.lt])
      (v : Value) (set : (Value.ofOption id o).present? = some v) : P v := by
    rw [Value.present?_ofOption_id, Option.bind_eq_some_iff] at set
    obtain ⟨w, rfl, same⟩ := set
    exact each v (List.mem_filterMap.mpr ⟨w, List.mem_filterMap.mpr ⟨some w, there, rfl⟩, same⟩)
  intro m inside v set
  simp only [Clause.rangeMembers, List.mem_cons, List.not_mem_nil, or_false] at inside
  rcases inside with rfl | rfl | rfl | rfl | rfl | rfl | rfl
  · exact bound _ (by simp) v set
  · exact bound _ (by simp) v set
  · exact bound _ (by simp) v set
  · exact bound _ (by simp) v set
  · cases set
  · cases set
  · exact texts_holds whole timeZone set

theorem instant_holds (whole : Value.Partwise P) (i : Instant) : P i.value := by
  cases i with
  | moment m => exact whole.str _
  | int n => exact whole.int n
  | float x => exact whole.float x
  | expression s => exact whole.str s

theorem terms_holds (whole : Value.Partwise P) (field : String) (texts : List String) :
    P (Clause.terms field texts Option.none).body := by
  have list : P (.list (texts.map .str)) := by
    rw [whole.list, List.forall_mem_map]
    exact fun s _ => whole.str s
  rw [Clause.body, single_holds whole, whole.obj]
  apply Members.each_compact
  intro m inside v set
  rcases Members.mem_of_mem_put inside with there | rfl
  · cases List.mem_singleton.mp there
    cases set
    exact list
  · cases set

theorem clauseList_holds (whole : Value.Partwise P) (name : String) {bodies : List Value}
    (each : ∀ v ∈ bodies, P v) : Members.Each P (Clause.clauseList name bodies) := by
  rw [Clause.clauseList]
  split
  · exact fun _ inside => absurd inside List.not_mem_nil
  · intro m inside
    cases List.mem_singleton.mp inside
    exact whole.list.mpr each

mutual

/-- By induction on the query. A boolean object holds nothing but the objects that it combines. -/
theorem clause_holds (whole : Value.Partwise P) {timeZone : Option String} (q : Query)
    (each : ∀ p ∈ q.parts, ∀ v ∈ p.callerValues, P v) {clause : Clause}
    (compiled : q.compile timeZone = .ok clause) : P clause.body := by
  cases q with
  | all of | any of | none of =>
    obtain ⟨clauses, own, body⟩ := combined_body compiled rfl
    have below := clauses_hold whole of (fun p inside => each p (List.mem_cons_of_mem _ inside))
      own
    rw [body, ← Clause.single, single_holds whole, whole.obj]
    exact clauseList_holds whole _ below
  | range field bounds =>
    cases compiled
    exact range_holds whole (each _ List.mem_cons_self)
  | dateRange field bounds own =>
    cases compiled
    apply range_holds whole
    intro v inside
    obtain ⟨w, there, set⟩ := List.mem_filterMap.mp inside
    obtain ⟨rfl, -⟩ := Value.present?_eq_some.mp set
    obtain ⟨o, listed, same⟩ := List.mem_filterMap.mp there
    cases same
    simp only [Bounds.map, List.mem_cons, List.not_mem_nil, or_false, Option.map_eq_some_iff,
      eq_comm (a := some w)] at listed
    rcases listed with ⟨i, -, rfl⟩ | ⟨i, -, rfl⟩ | ⟨i, -, rfl⟩ | ⟨i, -, rfl⟩ <;>
      exact instant_holds whole i
  | terms field values =>
    cases compiled
    exact terms_holds whole field _
  | queryString text defaultField defaultOperator =>
    cases compiled
    rw [Clause.body, single_holds whole, whole.obj]
    apply Members.each_compact
    intro m inside v set
    simp only [List.mem_cons, List.not_mem_nil, or_false] at inside
    rcases inside with rfl | rfl | rfl
    · exact texts_holds whole (some text) set
    · exact texts_holds whole defaultField set
    · exact texts_holds whole (some defaultOperator) set
  | fullText field text operator =>
    cases compiled
    apply onField_holds whole
    intro m inside v set
    simp only [List.mem_cons, List.not_mem_nil, or_false] at inside
    rcases inside with rfl | rfl | rfl
    · exact texts_holds whole (some text) set
    · cases set
    · exact texts_holds whole operator set
  | presence field expected =>
    cases expected <;> cases compiled <;>
      simp [Clause.body, Clause.bodies, Clause.clauseList, Clause.single, whole.obj, whole.list,
        whole.str]
  | other kind => cases compiled
  | _ =>
    cases compiled
    simp [Clause.body, Clause.onField, Clause.single, Clause.corners, Clause.doubles,
      Value.ofOption, Members.compact, whole.obj, whole.str, whole.float]

theorem clauses_hold (whole : Value.Partwise P) {timeZone : Option String} (qs : List Query)
    (each : ∀ p ∈ partsOfEach qs, ∀ v ∈ p.callerValues, P v) {clauses : List Clause}
    (compiled : compileAll timeZone qs = .ok clauses) : ∀ v ∈ Clause.bodies clauses, P v := by
  cases qs with
  | nil =>
    cases compiled
    exact fun v inside => absurd inside List.not_mem_nil
  | cons q qs =>
    obtain ⟨own, others⟩ := List.forall_mem_append.mp each
    rw [compileAll] at compiled
    obtain ⟨clause, first, rest⟩ := bind_ok.mp compiled
    obtain ⟨clauses, later, made⟩ := bind_ok.mp rest
    cases made
    exact List.forall_mem_cons.mpr
      ⟨clause_holds whole q own first, clauses_hold whole qs others later⟩

end

end Query

/-- Whether the value is a moment. -/
def Value.isMoment : Value → Bool
  | .moment _ => true
  | _ => false

/-- The values that a span takes over as they are: its bounds that are set. -/
def Span.callerValues (s : Span) : List Value := s.bounds.filterMap Value.present?

namespace Aggregation

variable {P : Value → Prop}

namespace Native

theorem parts_hold (whole : Value.Partwise P) {v : Value} {vs : List Value} (own : P v)
    (made : parts? v = some vs) : ∀ w ∈ vs, P w := by
  cases v with
  | list items =>
    cases made
    exact whole.list.mp own
  | pair name inner =>
    cases made
    exact List.forall_mem_cons.mpr
      ⟨whole.str name, List.forall_mem_singleton.mpr (whole.pair own)⟩
  | record kinds given fields others =>
    cases made
    intro w inside
    obtain ⟨m, there, rfl⟩ := List.mem_map.mp inside
    exact whole.record own m there
  | obj ms | str s | choice _ _ s =>
    cases made
    intro w inside
    obtain ⟨part, -, rfl⟩ := List.mem_map.mp inside
    exact whole.str _
  | bytes b =>
    cases made
    intro w inside
    obtain ⟨part, -, rfl⟩ := List.mem_map.mp inside
    exact whole.int _
  | _ => cases made

theorem readPair_holds (whole : Value.Partwise P) {v : Value} {p : Value × Value} (own : P v)
    (read : readPair v = .ok p) : P p.2 := by
  rw [readPair] at read
  split at read
  next vs made =>
    rw [pairOfItems.eq_def] at read
    split at read
    next key w =>
      rw [pair] at read
      split at read
      · cases read
        exact parts_hold whole own made w (by simp)
      · cases read
    next => cases read
  next => cases read

theorem setPair_holds {key v : Value} {pairs : List (Value × Value)} (own : P v)
    (others : ∀ p ∈ pairs, P p.2) : ∀ p ∈ setPair key v pairs, P p.2 := by
  induction pairs with
  | nil => simpa [setPair] using own
  | cons p pairs ih =>
    obtain ⟨here, later⟩ := List.forall_mem_cons.mp others
    rw [setPair]
    split
    · exact List.forall_mem_cons.mpr ⟨own, later⟩
    · exact List.forall_mem_cons.mpr ⟨here, ih later⟩

theorem setPairs_hold {ms : Members} {pairs : List (Value × Value)} (each : ms.Each P)
    (others : ∀ p ∈ pairs, P p.2) : ∀ p ∈ setPairs pairs ms, P p.2 := by
  induction ms generalizing pairs with
  | nil => exact others
  | cons m ms ih =>
    obtain ⟨here, later⟩ := List.forall_mem_cons.mp each
    exact ih later (setPair_holds here others)

theorem textPairs_hold {ms : Members} (each : ms.Each P) : ∀ p ∈ textPairs ms, P p.2 := by
  intro p inside
  obtain ⟨m, there, rfl⟩ := List.mem_map.mp inside
  exact each m there

/-- The pairs of a list are set one after another. -/
theorem foldPairs_hold (whole : Value.Partwise P) {vs : List Value}
    {first pairs : List (Value × Value)} (each : ∀ v ∈ vs, P v) (others : ∀ p ∈ first, P p.2)
    (read : vs.foldlM (fun ps v => (readPair v).map fun p => setPair p.1 p.2 ps) first =
      .ok pairs) : ∀ p ∈ pairs, P p.2 := by
  induction vs generalizing first with
  | nil =>
    cases read
    exact others
  | cons v vs ih =>
    obtain ⟨here, later⟩ := List.forall_mem_cons.mp each
    rw [List.foldlM_cons] at read
    obtain ⟨next, set, rest⟩ := bind_ok.mp read
    obtain ⟨p, own, rfl⟩ := map_ok.mp set
    exact ih later (setPair_holds (readPair_holds whole here own) others) rest

theorem readNested_hold (whole : Value.Partwise P) {v : Value} {pairs : List (Value × Value)}
    (own : v = .null ∨ P v) (read : readNested v = .ok pairs) : ∀ p ∈ pairs, P p.2 := by
  rw [readNested.eq_def] at read
  split at read
  next =>
    cases read
    exact fun _ inside => absurd inside List.not_mem_nil
  next there =>
    have own : P v := own.resolve_left fun null => there (null ▸ rfl)
    split at read
    next ms =>
      cases read
      exact textPairs_hold (whole.obj.mp own)
    next kinds given fields others =>
      cases read
      exact textPairs_hold (whole.members own)
    next =>
      split at read
      next vs made =>
        exact foldPairs_hold whole (parts_hold whole own made)
          (fun _ inside => absurd inside List.not_mem_nil) read
      next => cases read

theorem namePairs_hold {pairs : List (Value × Value)} {ms : Members}
    (each : ∀ p ∈ pairs, P p.2) (named : namePairs pairs = .ok ms) : ms.Each P := by
  intro m inside
  obtain ⟨p, there, own⟩ := mapM_ok_of_mem named inside
  split at own
  · cases own
    exact each p there
  · cases own

theorem nest_holds (whole : Value.Partwise P) {body nested members : Members}
    (each : body.Each P) (added : nested.Each P) (made : nest body nested = .ok members) :
    members.Each P := by
  rw [nest_eq] at made
  obtain ⟨own, read, made⟩ := bind_ok.mp made
  obtain ⟨ms, named, made⟩ := bind_ok.mp made
  cases made
  have pairs := setPairs_hold added (readNested_hold whole (each.get _) read)
  exact each.put (whole.obj.mpr (namePairs_hold pairs named))

end Native

/-- The values that a body takes over as they are: the bounds of spans that are set, what stands for
missing values, and what a native body is read as. -/
def Body.callerValues : Body → List Value
  | .terms _ _ _ fallback => fallback.toList
  | .ranges _ spans | .dateRanges _ spans _ _ | .geoDistance _ _ _ spans =>
    spans.flatMap Span.callerValues
  | .native value => (Native.read value).toOption.toList.map .obj
  | .filters queries => queries.flatMap fun named => named.2.parts.flatMap Query.callerValues
  | _ => []

/-- The values that a body takes over and sends as they are. The moments among the bounds of date
ranges are sent as numbers. -/
def Body.sentValues : Body → List Value
  | .dateRanges _ spans _ _ => (spans.flatMap Span.callerValues).filter fun v => !v.isMoment
  | body => body.callerValues

theorem Body.sentValues_subset (body : Body) : body.sentValues ⊆ body.callerValues := by
  cases body with
  | dateRanges field spans format timeZone => exact List.filter_subset_self _
  | _ => exact List.Subset.refl _

variable {setting : Setting}

theorem texts_hold (whole : Value.Partwise P) (name : String) (s : Option String) :
    Members.Each P (texts name s) := by
  apply Members.each_optional
  intro v made
  obtain ⟨text, -, rfl⟩ := Option.map_eq_some_iff.mp made
  exact whole.str text

theorem span_holds (whole : Value.Partwise P) {s : Span} (each : ∀ v ∈ s.callerValues, P v) :
    P s.body := by
  rw [Span.body, whole.obj]
  apply Members.each_compact
  have bound (o : Option Value) (there : o.toList ⊆ s.bounds) (v : Value)
      (set : (Value.ofOption id o).present? = some v) : P v := by
    rw [Value.present?_ofOption_id, Option.bind_eq_some_iff] at set
    obtain ⟨w, rfl, same⟩ := set
    exact each v (List.mem_filterMap.mpr ⟨w, there List.mem_cons_self, same⟩)
  intro m inside v set
  simp only [List.mem_cons, List.not_mem_nil, or_false] at inside
  rcases inside with rfl | rfl | rfl
  · exact Query.texts_holds whole s.key set
  · exact bound s.start (by simp [Span.bounds]) v set
  · exact bound s.stop (by simp [Span.bounds]) v set

theorem spanList_holds (whole : Value.Partwise P) {spans : List Span}
    (each : ∀ v ∈ spans.flatMap Span.callerValues, P v) : P (spanList spans).2 := by
  rw [List.forall_mem_flatMap] at each
  rw [spanList, whole.list, List.forall_mem_map]
  exact fun s inside => span_holds whole (each s inside)

/-- A resolved bound is a number, or what it was if that was neither a text nor a moment. -/
theorem resolveBound_holds (whole : Value.Partwise P) {zone : Calendar.Zone}
    {anchor : Calendar.Moment} {bound resolved : Option Value}
    (each : ∀ v ∈ bound.toList.filterMap Value.present?, v.isMoment = false → P v)
    (made : resolveBound? zone anchor bound = .ok resolved) :
    ∀ v ∈ resolved.toList.filterMap Value.present?, P v := by
  cases bound with
  | none =>
    cases made
    exact fun _ inside => absurd inside List.not_mem_nil
  | some v =>
    obtain ⟨w, number, rfl⟩ := map_ok.mp made
    rw [resolveBound.eq_def] at number
    split at number
    next text =>
      split at number
      · cases number
        exact List.forall_mem_singleton.mpr (whole.int _)
      · cases number
    next =>
      cases number
      exact List.forall_mem_singleton.mpr (whole.int _)
    next notText notMoment =>
      cases number
      intro u inside
      apply each u inside
      obtain ⟨o, listed, set⟩ := List.mem_filterMap.mp inside
      cases List.mem_singleton.mp listed
      obtain ⟨rfl, -⟩ := Value.present?_eq_some.mp set
      cases v with
      | moment m => exact absurd rfl (notMoment m)
      | _ => rfl

theorem resolve_holds (whole : Value.Partwise P) {zone : Calendar.Zone} {anchor : Calendar.Moment}
    {s resolved : Span} (each : ∀ v ∈ s.callerValues, v.isMoment = false → P v)
    (made : s.resolve zone anchor = .ok resolved) : ∀ v ∈ resolved.callerValues, P v := by
  obtain ⟨start, first, rest⟩ := bind_ok.mp made
  obtain ⟨stop, second, all⟩ := bind_ok.mp rest
  cases all
  rw [Span.callerValues, Span.bounds, List.filterMap_append, List.forall_mem_append] at each ⊢
  exact ⟨resolveBound_holds whole each.1 first, resolveBound_holds whole each.2 second⟩

theorem resolveAll_holds (whole : Value.Partwise P) {zone : Calendar.Zone}
    {anchor : Calendar.Moment} {spans resolved : List Span}
    (each : ∀ v ∈ spans.flatMap Span.callerValues, v.isMoment = false → P v)
    (made : spans.mapM (Span.resolve zone anchor) = .ok resolved) :
    ∀ v ∈ resolved.flatMap Span.callerValues, P v := by
  rw [List.forall_mem_flatMap] at each ⊢
  intro span inside
  obtain ⟨s, there, own⟩ := mapM_ok_of_mem made inside
  exact resolve_holds whole (each s there) own

/-- The members that a content has itself. -/
def Content.members : Content → Members
  | .typed _ members => members
  | .native members => members

theorem compileFilters_hold (whole : Value.Partwise P) {timeZone : Option String}
    {queries : List (String × Query)} {bodies : Members}
    (each : ∀ v ∈ queries.flatMap fun named => named.2.parts.flatMap Query.callerValues, P v)
    (compiled : queries.mapM (compileFilter timeZone) = .ok bodies) : bodies.Each P := by
  intro m inside
  obtain ⟨named, listed, own⟩ := mapM_ok_of_mem compiled inside
  rw [compileFilter] at own
  split at own
  next clause made =>
    cases own
    have values := List.forall_mem_flatMap.mp each named listed
    exact Query.clause_holds whole named.2 (List.forall_mem_flatMap.mp values) made
  next => cases own

theorem Body.content_holds (whole : Value.Partwise P) {key : String} {body : Body}
    {content : Content} (each : ∀ v ∈ body.sentValues, P v)
    (compiled : body.compile setting key = .ok content) : content.members.Each P := by
  have field (name : String) : Members.Each P [fieldMember name] :=
    List.forall_mem_singleton.mpr (whole.str name)
  have number (name : String) (n : Option Int) :
      Members.Each P (Members.optional name (n.map .int)) := by
    apply Members.each_optional
    intro v made
    obtain ⟨i, -, rfl⟩ := Option.map_eq_some_iff.mp made
    exact whole.int i
  cases body with
  | terms name size order fallback =>
    cases compiled
    have asked : Members.Each P [fieldMember name, ("size", .int size),
        ("order", .obj [(order.basis.text, .str order.direction.text)])] := by
      have ordered : P (.obj [(order.basis.text, .str order.direction.text)]) :=
        whole.obj.mpr (List.forall_mem_singleton.mpr (whole.str _))
      simp [Members.Each, fieldMember, whole.str, whole.int, ordered]
    exact asked.append (Members.each_optional fun v set => each v (Option.mem_toList.mpr set))
  | histogram name interval offset =>
    cases compiled
    have asked : Members.Each P [fieldMember name, ("interval", .float interval)] := by
      simp [Members.Each, fieldMember, whole.str, whole.float]
    refine asked.append (Members.each_optional fun v set => ?_)
    obtain ⟨x, -, rfl⟩ := Option.map_eq_some_iff.mp set
    exact whole.float x
  | dateHistogram name interval format offset timeZone =>
    rw [Body.compile] at compiled
    split at compiled
    next => cases compiled
    next kind _ =>
      cases compiled
      have asked : Members.Each P [fieldMember name, (kind.member, .str interval)] := by
        simp [Members.Each, fieldMember, whole.str]
      exact ((asked.append (texts_hold whole _ _)).append (texts_hold whole _ _)).append
        (texts_hold whole _ _)
  | ranges name spans =>
    cases compiled
    exact (field name).append (List.forall_mem_singleton.mpr (spanList_holds whole each))
  | dateRanges name spans format timeZone =>
    rw [Body.compile] at compiled
    obtain ⟨zone, -, rest⟩ := bind_ok.mp compiled
    obtain ⟨resolved, resolving, made⟩ := bind_ok.mp rest
    cases made
    have bounds : ∀ v ∈ spans.flatMap Span.callerValues, v.isMoment = false → P v := by
      intro v inside other
      exact each v (List.mem_filter.mpr ⟨inside, by simp [other]⟩)
    have sent := spanList_holds whole (resolveAll_holds whole bounds resolving)
    exact ((field name).append (texts_hold whole _ _)).append (List.forall_mem_singleton.mpr sent)
  | geoHash name precision size =>
    cases compiled
    exact ((field name).append (number _ precision)).append (number _ size)
  | geoDistance name origin unit spans =>
    cases compiled
    have asked : Members.Each P [fieldMember name,
        ("origin", .obj [("lat", .float origin.lat), ("lon", .float origin.lon)])] := by
      simp [Members.Each, fieldMember, whole.str, whole.obj, whole.float]
    exact (asked.append (texts_hold whole _ _)).append
      (List.forall_mem_singleton.mpr (spanList_holds whole each))
  | filters queries =>
    rw [Body.compile] at compiled
    obtain ⟨bodies, own, made⟩ := bind_ok.mp compiled
    cases made
    refine List.forall_mem_singleton.mpr (whole.obj.mpr ?_)
    exact compileFilters_hold whole each own
  | native value =>
    obtain ⟨members, read, rfl⟩ := map_ok.mp compiled
    have body : Native.read value = .ok members := mapError_ok.mp read
    refine whole.obj.mp (each (.obj members) ?_)
    simp [Body.sentValues, Body.callerValues, body, Except.toOption]
  | other kind => cases compiled
  | missing name | cardinality name | stats name | geoCentroid name | geoBounds name =>
    cases compiled
    exact field name

theorem withMinDocCount_holds (whole : Value.Partwise P) {members : Members} (count : Option Int)
    (each : members.Each P) : (withMinDocCount count members).Each P := by
  cases count with
  | none => exact each
  | some n => exact each.put (whole.int n)

theorem Content.entry_holds (whole : Value.Partwise P) {key : String} {count : Option Int}
    {nested : Option Members} {content : Content} {e : Members} (each : content.members.Each P)
    (below : ∀ ms, nested = some ms → ms.Each P)
    (made : content.entry key count nested = .ok e) : e.Each P := by
  cases content with
  | typed type members =>
    cases made
    have own := whole.obj.mpr (withMinDocCount_holds whole count each)
    refine List.forall_mem_cons.mpr ⟨own, Members.each_optional fun v set => ?_⟩
    obtain ⟨ms, there, rfl⟩ := Option.map_eq_some_iff.mp set
    exact whole.obj.mpr (below ms there)
  | native members =>
    cases nested with
    | none =>
      cases made
      exact withMinDocCount_holds whole count each
    | some ms =>
      obtain ⟨merged, nesting, rfl⟩ := map_ok.mp made
      have all := Native.nest_holds whole each (below ms rfl) (mapError_ok.mp nesting)
      exact withMinDocCount_holds whole count all

/-! Siblings with one key: the entry of the last of them is written -/

theorem IsLast.mem {as : List Aggregation} {a : Aggregation} (last : IsLast as a) : a ∈ as := by
  obtain ⟨before, after, rfl, -⟩ := last
  simp

theorem exists_isLast {as : List Aggregation} {name : String} (inside : name ∈ as.map key) :
    ∃ a, IsLast as a ∧ a.key = name := by
  induction as with
  | nil => cases inside
  | cons b as ih =>
    by_cases later : name ∈ as.map key
    · obtain ⟨a, ⟨before, after, rfl, last⟩, same⟩ := ih later
      exact ⟨a, ⟨b :: before, after, rfl, last⟩, same⟩
    · have here : name = b.key := (List.mem_cons.mp inside).resolve_right later
      refine ⟨b, ⟨[], as, rfl, fun c there same => later ?_⟩, here.symm⟩
      exact here ▸ same ▸ List.mem_map_of_mem there

theorem compileAll_mem_last {as : List Aggregation} {ms : Members} {m : String × Value}
    (compiled : compileAll setting as = .ok ms) (inside : m ∈ ms) :
    ∃ a e, IsLast as a ∧ entry setting a = .ok e ∧ m = (a.key, .obj e) := by
  have names := compileAll_names compiled
  have listed : m.1 ∈ as.map key := by
    rw [← List.mem_eraseDups, ← names]
    exact List.mem_map_of_mem inside
  obtain ⟨a, last, same⟩ := exists_isLast listed
  obtain ⟨before, after, rfl, later⟩ := last
  obtain ⟨e, own, found⟩ := lookup_last compiled later
  refine ⟨a, e, ⟨before, after, rfl, later⟩, own, ?_⟩
  have distinct : ms.names.Nodup := by
    obtain ⟨entries, -, rfl⟩ := compileAll_ok.mp compiled
    exact Members.nodup_ofList entries
  have here := Members.lookup_of_mem distinct inside
  rw [← same, found] at here
  exact Prod.ext same.symm (Option.some.inj here).symm

theorem compileAll_holds_of_entries (whole : Value.Partwise P) {as : List Aggregation}
    {ms : Members} (entries : ∀ a, IsLast as a → ∀ e, entry setting a = .ok e → e.Each P)
    (compiled : compileAll setting as = .ok ms) : ms.Each P := by
  intro m inside
  obtain ⟨a, e, last, own, rfl⟩ := compileAll_mem_last compiled inside
  exact whole.obj.mpr (entries a last e own)

mutual

/-- By induction on the aggregation, whose entry holds its own content and the entries of its
children. -/
theorem entry_holds (whole : Value.Partwise P) (a : Aggregation)
    (own : ∀ v ∈ a.body.sentValues, P v)
    (below : ∀ path b, Standing a.children path b → ∀ v ∈ b.body.sentValues, P v) {e : Members}
    (compiled : entry setting a = .ok e) : e.Each P := by
  obtain ⟨key, body, count, children⟩ := a
  obtain ⟨nested, content, inner, made, written⟩ := entry_ok.mp compiled
  refine Content.entry_holds whole (Body.content_holds whole own made) (fun ms there => ?_) written
  have each := entries_hold whole children
  rw [compileChildren_eq] at inner
  split at inner
  · cases inner
    cases there
  · obtain ⟨all, compiled, same⟩ := map_ok.mp inner
    cases same.trans there
    refine compileAll_holds_of_entries whole (fun b last e own => ?_) compiled
    have deeper : ∀ path c, Standing b.children path c → ∀ v ∈ c.body.sentValues, P v :=
      fun _ c standing => below _ c (.nested last standing)
    exact each b last.mem (below _ b (.listed last)) deeper e own

theorem entries_hold (whole : Value.Partwise P) (as : List Aggregation) :
    ∀ a ∈ as, (∀ v ∈ a.body.sentValues, P v) →
      (∀ path b, Standing a.children path b → ∀ v ∈ b.body.sentValues, P v) →
      ∀ e, entry setting a = .ok e → e.Each P := by
  cases as with
  | nil => exact fun _ inside => absurd inside List.not_mem_nil
  | cons a as =>
    exact List.forall_mem_cons.mpr
      ⟨fun own below _ compiled => entry_holds whole a own below compiled, entries_hold whole as⟩

end

theorem compileAll_holds (whole : Value.Partwise P) {as : List Aggregation} {ms : Members}
    (each : ∀ path a, Standing as path a → ∀ v ∈ a.body.sentValues, P v)
    (compiled : compileAll setting as = .ok ms) : ms.Each P := by
  refine compileAll_holds_of_entries whole (fun a last _ own => ?_) compiled
  have deeper : ∀ path b, Standing a.children path b → ∀ v ∈ b.body.sentValues, P v :=
    fun _ b standing => each _ b (.nested last standing)
  exact entry_holds whole a (each _ a (.listed last)) deeper own

end Aggregation

namespace Request

variable {P : Value → Prop} {r : Request} {current : Calendar.Moment} {context : Context}

theorem listMember_holds (whole : Value.Partwise P) (name : String) {vs : List Value}
    (each : ∀ v ∈ vs, P v) : (Engine.Request.listMember name vs).Each P := by
  rw [Engine.Request.listMember]
  split
  · exact fun _ inside => absurd inside List.not_mem_nil
  · exact List.forall_mem_singleton.mpr (whole.list.mpr each)

theorem objectMember_holds (whole : Value.Partwise P) (name : String) {ms : Members}
    (each : ms.Each P) : (Engine.Request.objectMember name ms).Each P := by
  rw [Engine.Request.objectMember]
  split
  · exact fun _ inside => absurd inside List.not_mem_nil
  · exact List.forall_mem_singleton.mpr (whole.obj.mpr each)

theorem textPairs_holds (whole : Value.Partwise P) (pairs : List (String × String)) :
    P (Engine.Request.textPairs pairs) := by
  rw [Engine.Request.textPairs, whole.obj]
  intro m inside
  obtain ⟨pair, -, rfl⟩ := List.mem_map.mp inside
  exact whole.str pair.2

theorem compileQuery_holds (whole : Value.Partwise P) {timeZone : Option String}
    {query : Option Query} {clause : Option Engine.Clause}
    (each : ∀ q, query = some q → ∀ p ∈ q.parts, ∀ v ∈ p.callerValues, P v)
    (compiled : compileQuery timeZone query = .ok clause) :
    (Members.optional "query" (clause.map Engine.Clause.body)).Each P := by
  apply Members.each_optional
  intro v made
  obtain ⟨written, rfl, rfl⟩ := Option.map_eq_some_iff.mp made
  cases query with
  | none => cases compiled
  | some q =>
    rw [compileQuery] at compiled
    split at compiled
    next clause own =>
      cases compiled
      exact Query.clause_holds whole q (each q rfl) own
    next => cases compiled

/-- A property of the parts of values holds of a body where it holds of the values that the query
takes over, and of those that the aggregations send which no sibling replaces. -/
theorem compileIn_holds (whole : Value.Partwise P) {request : Engine.Request}
    (asked : ∀ q, r.query = some q → ∀ p ∈ q.parts, ∀ v ∈ p.callerValues, P v)
    (computed : ∀ path a, Aggregation.Standing r.aggregations path a →
      ∀ v ∈ a.body.sentValues, P v)
    (compiled : r.compileIn current context = .ok request) : P request.body := by
  obtain ⟨query, first, rest⟩ := bind_ok.mp compiled
  obtain ⟨aggregations, second, made⟩ := bind_ok.mp rest
  cases made
  have queried := compileQuery_holds whole asked first
  have entries := objectMember_holds whole "aggs" (Aggregation.compileAll_holds whole computed second)
  have texts (name : String) (ss : List String) :
      (Engine.Request.listMember name (ss.map .str)).Each P :=
    listMember_holds whole name (List.forall_mem_map.mpr fun s _ => whole.str s)
  have sorted : (Engine.Request.listMember "sort"
      ((r.orders.map orderPair).map Engine.Request.textPairs)).Each P :=
    listMember_holds whole "sort" (List.forall_mem_map.mpr fun pairs _ => textPairs_holds whole pairs)
  have paged : Members.Each P
      [("from", .int r.offset), ("size", .int (r.limit.getD standardLimit))] := by
    simp [Members.Each, whole.int]
  rw [Engine.Request.body, whole.obj]
  exact ((((paged.append queried).append (texts _ _)).append entries).append sorted).append
    (texts _ _)

end Request

end PortableSearch
