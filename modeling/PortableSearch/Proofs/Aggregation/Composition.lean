import PortableSearch.Proofs.Aggregation.Entries

/-! The `aggs` object is composed of parts that do not influence each other. A name stands where a
sibling has it first and has the entry of the last sibling that has it, which is the entry of that
sibling alone. An entry of the engine's own type has the body that it has without children, then
the `aggs` object of the children. -/
namespace PortableSearch.Aggregation

/-- The engine's name for what a body computes; a native body says it itself. -/
def Body.engineType? : Body → Option String
  | .terms .. => some "terms"
  | .missing .. => some "missing"
  | .cardinality .. => some "cardinality"
  | .histogram .. => some "histogram"
  | .dateHistogram .. => some "date_histogram"
  | .stats .. => some "stats"
  | .ranges .. => some "range"
  | .dateRanges .. => some "date_range"
  | .geoHash .. => some "geohash_grid"
  | .geoCentroid .. => some "geo_centroid"
  | .geoBounds .. => some "geo_bounds"
  | .geoDistance .. => some "geo_distance"
  | .filters .. => some "filters"
  | .native _ | .other _ => none

/-- The aggregation without its children. -/
def childless (a : Aggregation) : Aggregation := mk a.key a.body a.minDocCount []

/-- The aggregation without its children and without a least number of documents. -/
def bare (a : Aggregation) : Aggregation := mk a.key a.body none []

/-- The members of a type's body with the least number of documents, if there is one, after
them. -/
def withCount (members : Members) (count : Option Int) : Members :=
  members ++ Members.optional "min_doc_count" (count.map .int)

/-- How the `aggs` object of siblings is composed. -/
structure Composes (setting : Setting) (siblings : List Aggregation) (ms : Members) : Prop where
  names : ms.names = (siblings.map key).eraseDups
  last_alone : ∀ before a after, siblings = before ++ a :: after →
    (∀ b ∈ after, b.key ≠ a.key) →
    ∃ e, compileAll setting [a] = .ok [(a.key, e)] ∧ ms.lookup a.key = some e
  entry_of_type : ∀ a ∈ siblings, ∀ type, a.body.engineType? = some type →
    ∃ members nested, compileAll setting [a.bare] = .ok [(a.key, .obj [(type, .obj members)])] ∧
      compileAll setting [a.childless] =
        .ok [(a.key, .obj [(type, .obj (withCount members a.minDocCount))])] ∧
      compileAll setting a.children = .ok nested ∧
      compileAll setting [a] = .ok [(a.key, .obj ((type, .obj (withCount members a.minDocCount)) ::
        if a.children.isEmpty then [] else [("aggs", .obj nested)]))]

variable {setting : Setting} {as : List Aggregation} {a : Aggregation}

theorem lookup_last {before after : List Aggregation} {ms : Members}
    (compiled : compileAll setting (before ++ a :: after) = .ok ms)
    (last : ∀ b ∈ after, b.key ≠ a.key) :
    ∃ e, entry setting a = .ok e ∧ ms.lookup a.key = some (.obj e) := by
  obtain ⟨entries, each, rfl⟩ := compileAll_ok.mp compiled
  simp only [List.mapM_append, List.mapM_cons, bind_ok, pure, Except.pure, Except.ok.injEq] at each
  obtain ⟨first, -, _, ⟨p, own, rest, others, rfl⟩, rfl⟩ := each
  obtain ⟨e, alone, rfl⟩ := named_ok.mp own
  have absent : a.key ∉ Members.names rest := by
    rw [names_of_mapM others]
    intro there
    obtain ⟨b, inside, same⟩ := List.mem_map.mp there
    exact last b inside same
  exact ⟨e, alone, Members.lookup_ofList_last first (.obj e) absent⟩

/-- The least number of documents is no member of what a body is compiled to. -/
theorem compile_typed {key type : String} {body : Body} {content : Content}
    (typed : body.engineType? = some type) (compiled : body.compile setting key = .ok content) :
    ∃ members, content = .typed type members ∧ "min_doc_count" ∉ members.names := by
  cases body with
  | dateHistogram field interval format offset timeZone =>
    cases typed
    rw [Body.compile] at compiled
    split at compiled
    · cases compiled
    next kind _ =>
      cases compiled
      refine ⟨_, rfl, ?_⟩
      cases kind <;> simp [fieldMember, texts, IntervalKind.member]
  | dateRanges field spans format timeZone =>
    cases typed
    rw [Body.compile] at compiled
    obtain ⟨zone, -, rest⟩ := bind_ok.mp compiled
    obtain ⟨resolved, -, made⟩ := bind_ok.mp rest
    cases made
    exact ⟨_, rfl, by simp [fieldMember, texts, spanList]⟩
  | filters queries =>
    cases typed
    rw [Body.compile] at compiled
    obtain ⟨bodies, -, made⟩ := bind_ok.mp compiled
    cases made
    exact ⟨_, rfl, by simp⟩
  | native | other => cases typed
  | _ =>
    cases typed
    cases compiled
    exact ⟨_, rfl, by simp [fieldMember, texts, spanList]⟩

theorem withMinDocCount_eq {members : Members} (count : Option Int)
    (fresh : "min_doc_count" ∉ members.names) :
    withMinDocCount count members = withCount members count := by
  cases count with
  | none => exact (List.append_nil members).symm
  | some n => exact Members.put_of_not_mem (.int n) fresh

/-- The entry of an aggregation of one of the engine's types, from its body and its children. -/
theorem entry_typed {type : String} {members : Members} {nested : Option Members}
    (compiled : a.body.compile setting a.key = .ok (.typed type members))
    (fresh : "min_doc_count" ∉ members.names)
    (children : compileChildren setting a.children = .ok nested) :
    entry setting a = .ok ((type, .obj (withCount members a.minDocCount)) ::
      Members.optional "aggs" (nested.map .obj)) := by
  refine entry_ok.mpr ⟨nested, _, children, compiled, ?_⟩
  rw [Content.entry, withMinDocCount_eq a.minDocCount fresh]
  rfl

theorem composes {ms : Members} (compiled : compileAll setting as = .ok ms) :
    Composes setting as ms where
  names := compileAll_names compiled
  last_alone := by
    rintro before a after rfl last
    obtain ⟨e, own, found⟩ := lookup_last compiled last
    exact ⟨.obj e, by rw [compileAll_singleton, own]; rfl, found⟩
  entry_of_type := by
    intro a inside type typed
    obtain ⟨e, own⟩ := compileAll_mem compiled inside
    obtain ⟨nested, content, children, body, -⟩ := entry_ok.mp own
    obtain ⟨members, rfl, fresh⟩ := compile_typed typed body
    obtain ⟨below, all⟩ := children_compile own
    refine ⟨members, below, ?_, ?_, all, ?_⟩
    · have plain : withCount members a.bare.minDocCount = members := List.append_nil members
      rw [compileAll_singleton, entry_typed (a := a.bare) body fresh rfl, plain]
      rfl
    · rw [compileAll_singleton, entry_typed (a := a.childless) body fresh rfl]
      rfl
    · rw [compileAll_singleton, entry_typed body fresh children]
      rw [compileChildren_eq, all] at children
      cases none : a.children with
      | nil | cons =>
        rw [none] at children
        cases children
        rfl

/-- In a fixed setting, the `aggs` object of aggregations is composed of the entries of its parts,
and so is, at every depth, that of the children among them. -/
theorem compileAll_composes {ms : Members} (compiled : compileAll setting as = .ok ms)
    (siblings : List Aggregation) (inside : Siblings as siblings) :
    ∃ ns, compileAll setting siblings = .ok ns ∧ Composes setting siblings ns := by
  obtain ⟨ns, below⟩ := siblings_compile compiled inside
  exact ⟨ns, below, composes below⟩

/-- Two siblings with one key: the second counts, in the place of the first. -/
theorem repeated_key_composes :
    let setting : Setting := ⟨none, ⟨0, some 0⟩⟩
    let colors : Aggregation := mk "color" (.cardinality "color") (some 2) []
    let siblings : List Aggregation :=
      [mk "by" (.stats "price") none [], mk "lacking" (.missing "price") none [colors],
        mk "by" (.stats "size") (some 1) [colors]]
    let color : Value :=
      .obj [("cardinality", .obj [("field", .str "color"), ("min_doc_count", .int 2)])]
    ∃ ms, compileAll setting siblings = .ok ms ∧ ms.names = ["by", "lacking"] ∧
      ms.lookup "by" = some (.obj [("stats", .obj [("field", .str "size"),
        ("min_doc_count", .int 1)]), ("aggs", .obj [("color", color)])]) := by
  intro setting colors siblings color
  have compiled : compileAll setting siblings = .ok _ := rfl
  obtain ⟨ms, all, composed⟩ := compileAll_composes compiled siblings .here
  obtain ⟨e, alone, found⟩ := composed.last_alone (siblings.take 2) _ [] rfl nofun
  cases alone
  exact ⟨ms, all, by rw [composed.names]; decide, found⟩

end PortableSearch.Aggregation
