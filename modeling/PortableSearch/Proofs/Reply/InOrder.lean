import PortableSearch.Reply.Summary
import PortableSearch.Proofs.Reply.Decoded
import PortableSearch.Proofs.Shape.Settled
import PortableSearch.Proofs.Value.ParseText

/-! The order of a reply. Its hits, the results of its aggregations and the buckets of these are
decoded one by one, each from what stands at its place, and a summary has the sources of the hits in
the same order. -/
namespace PortableSearch.Reply
open Shape

/-- The members of a reply, each name standing once. -/
def Raw.members? : Raw → Option Members
  | .data (.str s) => inText s.toList
  | .data (.bytes b) => (String.fromUTF8? b).bind fun s => inText s.toList
  | .data v => v.members?
  | .response _ body => body.members?
where
  inText (cs : List Char) : Option Members :=
    (Value.Parser.parse? dialect cs).bind fun v => v.distinct.members?

/-- Something holds of an object and what it is decoded to; a record stands for itself. -/
def DecodedFrom {α : Type} (ofRecord : Value → α) (holds : Members → α → Prop) : Value → α → Prop
  | .obj ms, a => holds ms a
  | .record kinds given fields others, a => a = ofRecord (.record kinds given fields others)
  | _, _ => False

/-- The source of a hit, unless it is null or missing. -/
def documentIn : Value → Option Members
  | .obj entry => ((entry.lookup "_source").or (entry.lookup "source")).bind Value.members?
  | v => (Hit.ofRecord v).source

structure HitOf (entry : Members) (hit : Hit) : Prop where
  id : hit.id = ((entry.lookup "_id").or (entry.lookup "id")).bind fun v => (readText v).toOption
  source : hit.source = documentIn (.obj entry)
  fields : hit.fields = ((entry.lookup "fields").bind Value.members?).map
    fun ms => ms.map fun m => (m.1, listed m.2)

/-- The number in a total, which may be an object. -/
def numberIn : Value → Value
  | .obj total => (total.lookup "value").getD (.int 0)
  | v => v

structure HitsOf (container : Members) (hits : Hits) : Prop where
  total : readInteger (numberIn ((container.lookup "total").getD (.int 0))) = .ok hits.total
  each : List.Forall₂ (DecodedFrom Hit.ofRecord HitOf) (listed (container.get "hits")) hits.hits
  documents : hits.hits.filterMap Hit.source = (listed (container.get "hits")).filterMap documentIn

structure BucketOf (entry : Members) (bucket : Bucket) : Prop where
  key : bucket.key = (entry.get "key").present?.map Value.display
  count : readInteger ((entry.lookup "doc_count").getD (.int 0)) = .ok bucket.count
  start : bucket.start = ((entry.lookup "from").or (entry.lookup "from_")).bind Value.present?
  stop : bucket.stop = (entry.lookup "to").bind Value.present?

/-- A bucket under a name has this as its key, instead of any key of its own. -/
structure KeyedBucketOf (name : String) (entry : Members) (bucket : Bucket) : Prop where
  key : bucket.key = some name
  rest : BucketOf (entry.put "key" (.str name)) bucket

/-- The buckets in an array or in an object of buckets; null has none. -/
inductive BucketsOf : Value → Option (List Bucket) → Prop
  | none : BucketsOf .null none
  | array {vs : List Value} {bs : List Bucket} :
    List.Forall₂ (DecodedFrom Bucket.ofRecord BucketOf) vs bs → BucketsOf (.list vs) (some bs)
  | keyed {ms : Members} {bs : List Bucket} :
    List.Forall₂ (fun m => DecodedFrom Bucket.ofRecord (KeyedBucketOf m.1) m.2) ms bs →
    BucketsOf (.obj ms) (some bs)

/-- The result of an aggregation has the buckets of its container. -/
def ResultOf (ms : Members) (a : AggregationResult) : Prop := BucketsOf (ms.get "buckets") a.buckets

structure InOrder (ms : Members) (result : SearchResult) : Prop where
  hits : DecodedFrom Hits.ofRecord HitsOf (ms.get "hits") result.hits
  aggregations : List.Forall₂
    (fun m a => a.1 = m.1 ∧ DecodedFrom AggregationResult.ofRecord ResultOf m.2 a.2)
    (resultsIn ms) result.aggregations

variable {source : Source} {type : RecordType FieldType} {ms : Members} {v w r : Value}

theorem decodedFrom {α : Type} {ofRecord : Value → α} {holds : Members → α → Prop}
    (read : (FieldType.record type).read source v = .ok r)
    (object : ∀ ms, v = .obj ms → holds ms (ofRecord r)) :
    DecodedFrom ofRecord holds v (ofRecord r) := by
  cases v with
  | obj ms => exact object ms rfl
  | record kinds given fields others =>
    simp only [FieldType.read] at read
    split at read
    · cases read
      rfl
    · cases read
  | _ =>
    simp only [FieldType.read] at read
    cases read

/-! Hits -/

theorem hit_of (settled : Settled source (.obj ms))
    (read : (FieldType.record hitType).read source (.obj ms) = .ok r) : HitOf ms (.ofRecord r) := by
  have own {f : FieldSpec FieldType} (inside : f ∈ hitType.fields) :=
    read_record_settled (by decide) settled read inside
  constructor
  case id =>
    exact optional_text (own (f := (FieldSpec.optional "id" .text).writtenAs "_id")
      (by simp [hitType])) rfl rfl
  case source =>
    have given := optional_dict (g := id)
      (own (f := (FieldSpec.optional "source" (.dict .any)).writtenAs "_source")
        (by simp [hitType])) settled rfl rfl fun v w own read => by
          rw [read_any own] at read
          exact (Except.ok.inj read).symm
    have same : Members.mapValues id = id := by
      funext ms
      exact List.map_id ms
    rw [same, Option.map_id] at given
    exact given
  case fields =>
    have given := optional_dict (g := fun v => .list (listed v))
      (own (f := .optional "fields" (.dict (.list false .any))) (by simp [hitType])) settled rfl rfl
      fun v w => read_list_any
    rw [valueIn_own rfl] at given
    have items (entries : Members) :
        (entries.mapValues fun v => .list (listed v)).map (fun m => (m.1, m.2.items)) =
          entries.map fun m => (m.1, listed m.2) := by
      rw [Members.mapValues, List.map_map]
      rfl
    have fields : (Hit.ofRecord r).fields =
        (r.fields.get "fields").members?.map fun ms => ms.map fun m => (m.1, m.2.items) := rfl
    rw [fields, show (r.fields.get "fields").members? = _ from given, Option.map_map]
    simp only [Function.comp_def, items]
    rfl

theorem documents_of {entries : List Value} {hits : List Hit}
    (each : List.Forall₂ (DecodedFrom Hit.ofRecord HitOf) entries hits) :
    hits.filterMap Hit.source = entries.filterMap documentIn := by
  induction each with
  | nil => rfl
  | @cons entry hit entries hits first _ ih =>
    have same : hit.source = documentIn entry := by
      cases entry with
      | obj ms => exact first.source
      | record =>
        rw [show hit = _ from first]
        rfl
      | _ => cases first
    rw [List.filterMap_cons, List.filterMap_cons, same, ih]

theorem total_of (settled : Settled source (.obj ms)) {f : FieldSpec FieldType}
    (own : f.ReadsAs source ms w) (type : f.type = .prepared .count .integer)
    (filled : f.fallback = some (.int 0)) :
    ∃ n, w = .int n ∧ readInteger (numberIn ((f.valueIn ms).getD (.int 0))) = .ok n := by
  rcases preset_cases own filled with ⟨absent, rfl⟩ | ⟨v, found, read⟩
  · rw [absent]
    exact ⟨0, rfl, rfl⟩
  · rw [type, FieldType.read, settled.valueIn found] at read
    have number : FieldType.integer.read .data (numberIn v) = .ok w := by
      cases v <;> exact read
    rw [found]
    exact read_integer_ok number

theorem hits_of (settled : Settled source (.obj ms))
    (read : (FieldType.record hitsType).read source (.obj ms) = .ok r) :
    HitsOf ms (.ofRecord r) := by
  have own {f : FieldSpec FieldType} (inside : f ∈ hitsType.fields) :=
    read_record_settled (by decide) settled read inside
  obtain ⟨ws, same, each⟩ := preset_list (own hitListField_mem) rfl rfl
  rw [valueIn_own rfl] at each
  have hits : (Hits.ofRecord r).hits = ws.map Hit.ofRecord := by
    rw [Hits.ofRecord, Members.items, show r.fields.get "hits" = _ from same]
    rfl
  have listed_settled : ∀ v ∈ listed (ms.get "hits"), Settled source v := by
    cases found : ms.lookup "hits" with
    | none =>
      intro v inside
      rw [Members.get, found] at inside
      cases inside
    | some u =>
      intro v inside
      rw [Members.get, found] at inside
      exact (settled.member (Members.mem_of_lookup found)).listed inside
  have entries : List.Forall₂ (DecodedFrom Hit.ofRecord HitOf) (listed (ms.get "hits"))
      (Hits.ofRecord r).hits := by
    rw [hits, List.forall₂_map_right_iff]
    refine ((List.forall₂_and_left _ _).mpr ⟨listed_settled, each⟩).imp ?_
    rintro v w ⟨settled, read⟩
    apply decodedFrom read
    rintro entry rfl
    exact hit_of settled read
  constructor
  case each => exact entries
  case documents => exact documents_of entries
  case total =>
    obtain ⟨n, same, counted⟩ := total_of settled
      (own (f := .preset "total" (.prepared .count .integer) (.int 0)) (by simp [hitsType]))
      rfl rfl
    have total : (Hits.ofRecord r).total = n := by
      rw [Hits.ofRecord, Members.int, show r.fields.get "total" = _ from same]
      rfl
    rw [total, ← counted, valueIn_own rfl]
    rfl

/-! Buckets -/

theorem key_of {f : FieldSpec FieldType} (own : f.ReadsAs .data ms w)
    (type : f.type = .prepared .display (.nullable .text)) (filled : f.fallback = some .null) :
    w.text? = ((f.valueIn ms).getD .null).present?.map Value.display := by
  rcases preset_cases own filled with ⟨absent, rfl⟩ | ⟨v, found, read⟩
  · rw [absent]
    rfl
  · rw [type, FieldType.read, settled_data] at read
    rw [found]
    cases v with
    | null =>
      simp only [Preparation.apply, FieldType.read] at read
      cases read
      rfl
    | _ =>
      simp only [Preparation.apply, FieldType.read] at read
      cases read
      rfl

theorem bucket_of (read : (FieldType.record bucketType).read .data (.obj ms) = .ok r) :
    BucketOf ms (.ofRecord r) := by
  have own {f : FieldSpec FieldType} (inside : f ∈ bucketType.fields) :=
    read_record_field (by decide) read inside
  have settled := settled_data (.obj ms)
  constructor
  case key =>
    have key := key_of (own (f := ⟨"key", "key", .prepared .display (.nullable .text), some .null⟩)
      (by simp [bucketType])) rfl rfl
    rw [valueIn_own rfl] at key
    exact key
  case count =>
    obtain ⟨n, same, counted⟩ := preset_integer
      (own (f := .preset "doc_count" .integer (.int 0)) (by simp [bucketType])) rfl rfl
    have count : (Bucket.ofRecord r).count = n := by
      rw [Bucket.ofRecord, Members.int, show r.fields.get "doc_count" = _ from same]
      rfl
    rw [count, ← counted, valueIn_own rfl]
    rfl
  case start =>
    exact optional_any (own (f := (FieldSpec.optional "from_" .any).writtenAs "from")
      (by simp [bucketType])) settled rfl rfl
  case stop =>
    have stop := optional_any (own (f := .optional "to" .any) (by simp [bucketType])) settled rfl rfl
    rw [valueIn_own rfl] at stop
    exact stop

theorem keyed_bucket_of {name : String}
    (read : (FieldType.record bucketType).read .data (withKey name v) = .ok r) :
    DecodedFrom Bucket.ofRecord (KeyedBucketOf name) v (.ofRecord r) := by
  cases v with
  | obj ms =>
    have rest : BucketOf (Members.put ms "key" (.str name)) (.ofRecord r) := bucket_of read
    refine ⟨?_, rest⟩
    rw [rest.key, Members.get, Members.lookup_put_self]
    rfl
  | _ =>
    apply decodedFrom read
    intro ms same
    cases same

theorem read_buckets_settled (settled : Settled source v) :
    bucketsType.read source v = bucketsType.read .data v := by
  rw [bucketsType, FieldType.read, FieldType.read, settled, settled_data]

theorem buckets_of (read : bucketsType.read .data v = .ok w) :
    BucketsOf v (w.present?.map fun b => b.items.map Bucket.ofRecord) := by
  cases read_buckets_iff.mp read with
  | null => exact .none
  | array each =>
    refine BucketsOf.array (List.forall₂_map_right_iff.mpr (each.imp fun v w read => ?_))
    apply decodedFrom read
    rintro entry rfl
    exact bucket_of read
  | keyed each =>
    exact .keyed (List.forall₂_map_right_iff.mpr (each.imp fun _ _ => keyed_bucket_of))

/-! Replies -/

theorem result_of (settled : Settled source (.obj ms))
    (read : (FieldType.record aggregationType).read source (.obj ms) = .ok r) :
    ResultOf ms (.ofRecord r) := by
  have own := read_record_settled (by decide) settled read bucketsField_mem
  rw [ResultOf, Members.get]
  rcases preset_cases own rfl with ⟨absent, null⟩ | ⟨v, found, read⟩
  · rw [valueIn_own rfl] at absent
    rw [show ms.lookup "buckets" = _ from absent, AggregationResult.ofRecord,
      show r.fields.get "buckets" = _ from null]
    exact .none
  · have inside := settled.valueIn found
    rw [valueIn_own rfl] at found
    rw [show ms.lookup "buckets" = _ from found]
    exact buckets_of ((read_buckets_settled inside).symm.trans read)

theorem results_of {results : Members} (settled : Settled source (.obj results))
    (read : (FieldType.dict (.record aggregationType)).read source (.obj results) = .ok w) :
    List.Forall₂ (fun m a => a.1 = m.1 ∧ DecodedFrom AggregationResult.ofRecord ResultOf m.2 a.2)
      results (w.fields.map fun m => (m.1, AggregationResult.ofRecord m.2)) := by
  obtain ⟨out, rfl, each⟩ := read_dict_settled settled read
  have both := (List.forall₂_and_left _ _).mpr ⟨fun m => settled.member, each⟩
  rw [List.forall₂_map_right_iff]
  refine both.imp ?_
  rintro ⟨n, v⟩ p ⟨own, name, read⟩
  refine ⟨name, decodedFrom read ?_⟩
  rintro ms rfl
  exact result_of own read

theorem in_order (settled : Settled source (.obj ms))
    (read : (FieldType.record resultType).read source (.obj ms) = .ok r) :
    InOrder ms (.ofRecord r) := by
  constructor
  case hits =>
    have own := read_record_settled resultType_distinct settled read hitsField_mem
    rw [FieldSpec.ReadsAs] at own
    split at own
    next v found =>
      have inside := settled.valueIn found
      rw [valueIn_own rfl] at found
      rw [Members.get, show ms.lookup "hits" = _ from found]
      apply decodedFrom own
      rintro container rfl
      exact hits_of inside own
    next => cases own
  case aggregations =>
    have own := read_record_settled resultType_distinct settled read aggregationsField_mem
    rw [resultsIn, Members.get]
    rcases preset_cases own rfl with ⟨absent, same⟩ | ⟨v, found, read⟩
    · rw [valueIn_own rfl] at absent
      rw [show ms.lookup "aggregations" = _ from absent, SearchResult.ofRecord,
        show r.fields.get "aggregations" = _ from same]
      exact .nil
    · have inside := settled.valueIn found
      rw [valueIn_own rfl] at found
      rw [show ms.lookup "aggregations" = _ from found]
      cases v with
      | obj results => exact results_of inside read
      | _ =>
        simp only [aggregationsField, FieldSpec.preset, FieldType.read] at read
        cases read

theorem text_settled {cs : List Char} (checked : checkText cs = .ok r) :
    ∃ ms, Raw.members?.inText cs = some ms ∧ Settled .text (.obj ms) ∧
      (FieldType.record resultType).read .text (.obj ms) = .ok r := by
  rw [checkText] at checked
  split at checked
  next v parsed =>
    have read := read_distinct _ (mapError_ok.mp checked)
    rw [Raw.members?.inText, parsed, Option.bind_some]
    cases v with
    | obj ms =>
      rw [Value.distinct_obj] at read ⊢
      exact ⟨_, rfl, Value.distinct_obj ms ▸ settled_distinct (.obj ms), read⟩
    | record => exact absurd rfl (Value.Parser.parse?_not_record parsed _ _ _ _)
    | _ =>
      simp only [Value.distinct, FieldType.read] at read
      cases read
  next => cases checked

/-- A reply that is decoded is an object, and the result is what its settled members are read as. -/
theorem decode_settled {raw : Raw} {result : SearchResult} (decoded : decode raw = .ok result) :
    ∃ source ms r, raw.members? = some ms ∧ Settled source (.obj ms) ∧
      (FieldType.record resultType).read source (.obj ms) = .ok r ∧ .ofRecord r = result := by
  obtain ⟨r, checked, same⟩ := map_ok.mp decoded
  have text {cs : List Char} (held : raw.members? = Raw.members?.inText cs)
      (checked : checkText cs = .ok r) : ∃ source ms r, raw.members? = some ms ∧
        Settled source (.obj ms) ∧ (FieldType.record resultType).read source (.obj ms) = .ok r ∧
          .ofRecord r = result := by
    obtain ⟨ms, inside, settled, read⟩ := text_settled checked
    exact ⟨.text, ms, r, held.trans inside, settled, read, same⟩
  cases raw with
  | response typeName body =>
    cases body with
    | obj ms => exact ⟨.data, ms, r, rfl, settled_data _, mapError_ok.mp checked, same⟩
    | _ => cases checked
  | data v =>
    cases v with
    | obj ms => exact ⟨.data, ms, r, rfl, settled_data _, mapError_ok.mp checked, same⟩
    | str s => exact text rfl checked
    | bytes b =>
      rw [checkRaw] at checked
      split at checked
      next s encoded =>
        apply text _ checked
        rw [Raw.members?, encoded, Option.bind_some]
      next => cases checked
    | _ => cases checked

/-- The hits, results and buckets of a reply that is decoded correspond one to one, and in order, to
what the reply has of these. A summary has the total, the sources of the hits that have one, and the
results. -/
theorem decode_in_order {raw : Raw} {result : SearchResult} (decoded : decode raw = .ok result) :
    (∃ ms, raw.members? = some ms ∧ InOrder ms result) ∧
      result.summary.totalHits = result.hits.total ∧
      result.summary.documents = result.hits.hits.filterMap Hit.source ∧
      result.summary.aggregations = result.aggregations := by
  obtain ⟨source, ms, r, held, settled, read, rfl⟩ := decode_settled decoded
  exact ⟨⟨ms, held, in_order settled read⟩, rfl, rfl, rfl⟩

/-- A hit without a source comes before one that has a source. -/
theorem sourceless_hit_in_order :
    let entries : List Value := [.obj [("_id", .str "a")],
      .obj [("_id", .str "b"), ("_source", .obj [("n", .int 5)])]]
    let raw : Raw := .data (.obj [("took", .int 1), ("hits", .obj
      [("total", .obj [("value", .int 2)]), ("hits", .list entries)])])
    ∃ result, decode raw = .ok result ∧ (∃ ms, raw.members? = some ms ∧ InOrder ms result) ∧
      result.hits.hits.map Hit.id = [some "a", some "b"] ∧
      result.summary.documents = [[("n", .int 5)]] := by
  intro entries raw
  have decoded : decode raw = .ok _ := rfl
  obtain ⟨ordered, -, documents, -⟩ := decode_in_order decoded
  exact ⟨_, decoded, ordered, rfl, documents⟩

end PortableSearch.Reply
