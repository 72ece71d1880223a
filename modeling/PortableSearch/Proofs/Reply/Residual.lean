import PortableSearch.Proofs.Reply.Decoded
import PortableSearch.Proofs.Shape.Congruence

/-! Members of a reply that no field has as a name. Each object of a reply keeps them, unchanged and
in their order, except the container of the hits, which is decoded as if it did not have them. -/
namespace PortableSearch.Reply
open Shape
variable {type : RecordType FieldType} {ms : Members} {r v w : Value}

/-- A name that a field of a kind has, inside or outside. -/
def Models (type : RecordType FieldType) (name : String) : Prop :=
  ∃ f ∈ type.fields, f.outerName = name ∨ f.name = name

instance (type : RecordType FieldType) (name : String) : Decidable (Models type name) :=
  inferInstanceAs (Decidable (∃ f ∈ type.fields, _))

def modelled (type : RecordType FieldType) (ms : Members) : Members :=
  ms.filter fun m => decide (Models type m.1)

def unmodelled (type : RecordType FieldType) (ms : Members) : Members :=
  ms.filter fun m => decide ¬ Models type m.1

/-- All members that a kind does not model are among other members: unchanged and in order. -/
def Keeps (type : RecordType FieldType) (ms others : Members) : Prop :=
  unmodelled type others = unmodelled type ms

/-- No member that a kind does not model is used by a field of it. -/
theorem unmodelled_unusedMembers (type : RecordType FieldType) (ms : Members) :
    unmodelled type (unusedMembers type.fields ms) = unmodelled type ms := by
  rw [unusedMembers_eq, unmodelled, unmodelled, List.filter_filter]
  refine List.filter_congr fun m _ => ?_
  by_cases known : Models type m.1
  · simp [known]
  · have left : LeftOver type.fields ms m.1 := by
      intro f inside
      exact ⟨fun outer => known ⟨f, inside, .inl outer⟩,
        fun own => absurd ⟨f, inside, .inr own⟩ known⟩
    simp [left]

theorem unmodelled_without {name : String} (known : Models type name) (ms : Members) :
    unmodelled type (ms.without name) = unmodelled type ms := by
  rw [Members.without, unmodelled, unmodelled, List.filter_filter]
  refine List.filter_congr fun m _ => ?_
  by_cases same : m.1 = name
  · simp [same, known]
  · simp [same]

theorem record_keeps (kept : type.keepsOthers = true)
    (read : (FieldType.record type).read .data (.obj ms) = .ok r) : Keeps type ms r.others := by
  rw [Keeps, record_others kept read, unmodelled_unusedMembers]

/-! Buckets -/

/-- A decoded bucket has the members that its kind does not model. -/
def BucketKept (v : Value) (b : Bucket) : Prop :=
  ∀ ms, v = .obj ms → Keeps bucketType ms b.other

/-- The decoded buckets, in order, have the members of the buckets of a container. -/
inductive BucketsKept : Value → List Bucket → Prop
  | array {vs : List Value} {bs : List Bucket} :
    List.Forall₂ BucketKept vs bs → BucketsKept (.list vs) bs
  | object {ms : Members} {bs : List Bucket} :
    List.Forall₂ (fun m b => BucketKept m.2 b) ms bs → BucketsKept (.obj ms) bs

theorem bucket_kept (read : (FieldType.record bucketType).read .data v = .ok r) :
    BucketKept v (.ofRecord r) := by
  rintro ms rfl
  exact record_keeps rfl read

theorem named_bucket_kept {name : String}
    (read : (FieldType.record bucketType).read .data (withKey name v) = .ok r) :
    BucketKept v (.ofRecord r) := by
  rintro ms rfl
  have kept : Keeps bucketType (Members.put ms "key" (.str name)) r.others := record_keeps rfl read
  have known : Models bucketType "key" := ⟨_, List.mem_cons_self, .inl rfl⟩
  rw [Keeps, ← unmodelled_without known (Members.put _ _ _), Members.without_put,
    unmodelled_without known] at kept
  exact kept

theorem buckets_kept (present : v ≠ .null) (read : bucketsType.read .data v = .ok w) :
    ∃ ws, w = .list ws ∧ BucketsKept v (ws.map Bucket.ofRecord) := by
  cases read_buckets_iff.mp read with
  | null => exact absurd rfl present
  | array each =>
    exact ⟨_, rfl, .array (List.forall₂_map_right_iff.mpr (each.imp fun _ _ => bucket_kept))⟩
  | keyed each =>
    exact ⟨_, rfl, .object (List.forall₂_map_right_iff.mpr
      (each.imp fun _ _ => named_bucket_kept))⟩

/-! Results of aggregations -/

/-- The decoded result of an aggregation has the members that its kind does not model, and its
buckets have theirs. -/
def ResultKept (v : Value) (a : AggregationResult) : Prop :=
  ∀ ms, v = .obj ms → Keeps aggregationType ms a.other ∧
    ∀ container, ms.lookup "buckets" = some container → container ≠ .null →
      ∃ bs, a.buckets = some bs ∧ BucketsKept container bs

theorem result_kept {a : AggregationResult} (accepted : AggregationResult.read v = .ok a) :
    ResultKept v a := by
  obtain ⟨r, read, rfl⟩ := map_ok.mp accepted
  rintro ms rfl
  refine ⟨record_keeps rfl read, fun container found present => ?_⟩
  have own : bucketsType.read .data container = .ok (r.fields.get "buckets") :=
    read_record_given (by decide) read bucketsField_mem (FieldSpec.valueIn_of_lookup found)
  obtain ⟨ws, listed, kept⟩ := buckets_kept present own
  exact ⟨ws.map Bucket.ofRecord, by rw [AggregationResult.ofRecord, listed]; rfl, kept⟩

/-! Replies -/

/-- A decoded hit has the members that its kind does not model. -/
def HitKept (v : Value) (hit : Hit) : Prop :=
  ∀ ms, v = .obj ms → Keeps hitType ms hit.other

theorem hit_kept (read : (FieldType.record hitType).read .data v = .ok r) :
    HitKept v (.ofRecord r) := by
  rintro ms rfl
  exact record_keeps rfl read

/-- A decoded reply has the members that its kind does not model, and so do its shards, each of its
hits and each result of an aggregation. -/
structure ReplyKept (ms : Members) (result : SearchResult) : Prop where
  reply : Keeps resultType ms result.other
  shards : ∀ shards, (ms.lookup "_shards").or (ms.lookup "shards") = some (.obj shards) →
    Keeps shardsType shards result.shards.other
  hits : ∀ container vs, ms.lookup "hits" = some (.obj container) →
    container.lookup "hits" = some (.list vs) → List.Forall₂ HitKept vs result.hits.hits
  aggregations : ∀ results, ms.lookup "aggregations" = some (.obj results) →
    List.Forall₂ (fun m a => a.1 = m.1 ∧ ResultKept m.2 a.2) results result.aggregations

theorem hits_kept {container : Members} {vs : List Value}
    (read : (FieldType.record hitsType).read .data (.obj container) = .ok r)
    (found : container.lookup "hits" = some (.list vs)) :
    List.Forall₂ HitKept vs (Hits.ofRecord r).hits := by
  have read : (FieldType.list false (.record hitType)).read .data (.list vs) =
      .ok (r.fields.get "hits") :=
    read_record_given (f := .preset "hits" _ (.list [])) (by decide) read (by simp [hitsType])
      (FieldSpec.valueIn_of_lookup found)
  obtain ⟨ws, listed, each⟩ := read_list_ok.mp read
  have hits : (Hits.ofRecord r).hits = ws.map Hit.ofRecord := by
    rw [Hits.ofRecord, Members.items, listed]
    rfl
  rw [hits, List.forall₂_map_right_iff]
  exact each.imp fun _ _ => hit_kept

theorem reply_kept (read : (FieldType.record resultType).read .data (.obj ms) = .ok r) :
    ReplyKept ms (.ofRecord r) := by
  constructor
  case reply => exact record_keeps rfl read
  case shards =>
    intro shards found
    have own := read_record_given (f := (FieldSpec.preset "shards" (.record shardsType)
      noShards).writtenAs "_shards") resultType_distinct read (by simp [resultType]) found
    exact record_keeps rfl own
  case hits =>
    intro container vs found listed
    have own := read_record_given resultType_distinct read hitsField_mem
      (FieldSpec.valueIn_of_lookup found)
    exact hits_kept own listed
  case aggregations =>
    intro results found
    have decoded : decode (.data (.obj ms)) = .ok (.ofRecord r) := decode_ok.mpr ⟨r, read, rfl⟩
    exact (decode_aggregations decoded found).imp fun _ _ both => ⟨both.1, result_kept both.2⟩

/-! The container of the hits -/

/-- A kind that keeps no other members reads an object as if it had none. -/
theorem read_modelled (dropped : type.keepsOthers = false) (ms : Members) :
    (FieldType.record type).read .data (.obj (modelled type ms)) =
      (FieldType.record type).read .data (.obj ms) := by
  have lookup {name : String} (known : Models type name) :
      (modelled type ms).lookup name = ms.lookup name :=
    Members.lookup_filter (p := fun n => decide (Models type n)) (decide_eq_true known)
  refine read_record_of_lookups (fun f inside => ?_) fun keeps => ?_
  · exact ⟨lookup ⟨f, inside, .inl rfl⟩, lookup ⟨f, inside, .inr rfl⟩⟩
  · rw [dropped] at keeps
    cases keeps

/-- A reply is decoded as if the container of its hits had the members of its fields alone. -/
theorem check_hits_modelled {container : Members} (found : ms.lookup "hits" = some (.obj container)) :
    check .data (.obj (ms.put "hits" (.obj (modelled hitsType container)))) =
      check .data (.obj ms) := by
  have alike : resultType.ReadsAlike "hits" (.obj container)
      (.obj (modelled hitsType container)) :=
    .of_field hitsField_mem hitsField_only (read_modelled rfl container).symm
  have read : (FieldType.record resultType).read .data (.obj ms) =
      (FieldType.record resultType).read .data
        (.obj (ms.put "hits" (.obj (modelled hitsType container)))) := by
    refine read_record_of_alike (Members.forall₂_put found (fun _ => ⟨rfl, .inl rfl⟩) ?_)
    exact ⟨rfl, alike⟩
  rw [check, check, read]

/-- A decoded reply has all members that are not modelled, except those of the container of its
hits. It has these only if there are none, and is decoded as if there were none. -/
theorem unmodelled_members_kept (checked : checkRaw (.data (.obj ms)) = .ok r) :
    decode (.data (.obj ms)) = .ok (.ofRecord r) ∧ ReplyKept ms (.ofRecord r) ∧
      ∀ container, ms.lookup "hits" = some (.obj container) →
        (Keeps hitsType container (r.fields.get "hits").others ↔
          unmodelled hitsType container = []) ∧
        checkRaw (.data (.obj (ms.put "hits" (.obj (modelled hitsType container))))) = .ok r := by
  have read : (FieldType.record resultType).read .data (.obj ms) = .ok r := mapError_ok.mp checked
  refine ⟨by rw [decode, checked]; rfl, reply_kept read, fun container found => ⟨?_, ?_⟩⟩
  · have hits : (FieldType.record hitsType).read .data (.obj container) =
        .ok (r.fields.get "hits") :=
      read_record_given resultType_distinct read hitsField_mem (FieldSpec.valueIn_of_lookup found)
    rw [Keeps, record_others_dropped rfl hits]
    exact eq_comm
  · exact (check_hits_modelled found).trans checked

theorem skipped_shards_kept : ∃ result, decode (.data (.obj [("took", .int 1),
      ("_shards", .obj [("total", .int 1), ("skipped", .int 0)]), ("hits", .obj [])])) =
        .ok result ∧
    Keeps shardsType [("total", .int 1), ("skipped", .int 0)] result.shards.other := by
  have checked : checkRaw (.data (.obj [("took", .int 1),
      ("_shards", .obj [("total", .int 1), ("skipped", .int 0)]), ("hits", .obj [])])) =
    .ok _ := rfl
  obtain ⟨decoded, kept, -⟩ := unmodelled_members_kept checked
  exact ⟨_, decoded, kept.shards _ rfl⟩

/-- Whether the total is exact is a member of the container of the hits in newer replies. -/
theorem hits_relation_lost : ∃ r, checkRaw (.data (.obj [("took", .int 1), ("hits", .obj
      [("total", .int 0), ("relation", .str "eq")])])) = .ok r ∧
    ¬ Keeps hitsType [("total", .int 0), ("relation", .str "eq")]
      (r.fields.get "hits").others := by
  refine ⟨_, rfl, fun kept => ?_⟩
  have lost : ([] : Members) = [("relation", .str "eq")] := kept
  cases lost

end PortableSearch.Reply
