import PortableSearch.Reply.Decode
import PortableSearch.Reply.Metric
import PortableSearch.Proofs.Shape.Reading

/-! What replies are decoded to: what is left over of a record's members, and the results of
aggregations, each read by itself. -/
namespace PortableSearch.Reply
open Shape
variable {type : RecordType FieldType} {ms results : Members} {r v w : Value} {name : String}
  {result : SearchResult}

/-! Members that are left over -/

theorem record_others (kept : type.keepsOthers = true)
    (read : (FieldType.record type).read .data (.obj ms) = .ok r) :
    r.others = unusedMembers type.fields ms := by
  obtain ⟨out, -, rfl⟩ := read_record_ok.mp read
  simp [buildRecord, Value.others, kept, Source.settle]

theorem record_others_dropped (dropped : type.keepsOthers = false)
    (read : (FieldType.record type).read .data (.obj ms) = .ok r) : r.others = [] := by
  obtain ⟨out, -, rfl⟩ := read_record_ok.mp read
  simp [buildRecord, Value.others, dropped]

theorem lookup_unusedMembers {fields : List (FieldSpec FieldType)} :
    (unusedMembers fields ms).lookup name = some v ↔
      LeftOver fields ms name ∧ ms.lookup name = some v := by
  rw [unusedMembers_eq]
  by_cases left : LeftOver fields ms name
  · rw [Members.lookup_filter (p := fun n => decide (LeftOver fields ms n)) (by simpa using left)]
    simp [left]
  · have absent : (ms.filter fun m => decide (LeftOver fields ms m.1)).lookup name = none := by
      rw [List.lookup_eq_none_iff]
      intro m inside
      have kept : LeftOver fields ms m.1 := by simpa using (List.mem_filter.mp inside).2
      rw [bne_iff_ne]
      rintro rfl
      exact left kept
    simp [left, absent]

/-! Containers of buckets -/

/-- The type of the buckets in the result of an aggregation. -/
def bucketsType : FieldType :=
  .prepared .keyedList (.nullable (.list false (.record bucketType)))

theorem read_buckets_list (vs : List Value) : bucketsType.read .data (.list vs) =
    (FieldType.list false (.record bucketType)).read .data (.list vs) := by
  simp only [bucketsType, FieldType.read, Preparation.apply, Source.settle]

theorem read_buckets_obj (ms : Members) : bucketsType.read .data (.obj ms) =
    (FieldType.list false (.record bucketType)).read .data
      (.list (ms.map fun m => withKey m.1 m.2)) := by
  simp only [bucketsType, FieldType.read, Preparation.apply, Source.settle]

/-- What a container of buckets is read as: null, or the list of what each bucket is read as. -/
inductive BucketsRead : Value → Value → Prop
  | null : BucketsRead .null .null
  | array {vs ws : List Value} :
    List.Forall₂ (fun v w => (FieldType.record bucketType).read .data v = .ok w) vs ws →
    BucketsRead (.list vs) (.list ws)
  | keyed {ms : Members} {ws : List Value} : List.Forall₂ (fun m w =>
      (FieldType.record bucketType).read .data (withKey m.1 m.2) = .ok w) ms ws →
    BucketsRead (.obj ms) (.list ws)

theorem read_buckets_iff : bucketsType.read .data v = .ok w ↔ BucketsRead v w := by
  constructor
  · intro read
    cases v with
    | null =>
      simp only [bucketsType, FieldType.read, Preparation.apply, Source.settle] at read
      cases read
      exact .null
    | list vs =>
      rw [read_buckets_list] at read
      obtain ⟨ws, rfl, each⟩ := read_list_ok.mp read
      exact .array each
    | obj ms =>
      rw [read_buckets_obj] at read
      obtain ⟨ws, rfl, each⟩ := read_list_ok.mp read
      exact .keyed (List.forall₂_map_left_iff.mp each)
    | _ => cases read
  · intro read
    cases read with
    | null =>
      simp only [bucketsType, FieldType.read, Preparation.apply, Source.settle]
    | array each =>
      rw [read_buckets_list]
      exact read_list_ok.mpr ⟨_, rfl, each⟩
    | keyed each =>
      rw [read_buckets_obj]
      exact read_list_ok.mpr ⟨_, rfl, List.forall₂_map_left_iff.mpr each⟩

/-- The member that a result of an aggregation has its buckets in. -/
def bucketsField : FieldSpec FieldType := ⟨"buckets", "buckets", bucketsType, some .null⟩

theorem bucketsField_mem : bucketsField ∈ aggregationType.fields := List.mem_cons_self

theorem bucketsField_only : ∀ g ∈ aggregationType.fields,
    g.outerName = "buckets" ∨ g.name = "buckets" → g = bucketsField := by
  simp [aggregationType, metricNames, FieldSpec.optional, bucketsField, bucketsType]

theorem result_buckets {vs : List Value}
    (read : (FieldType.record aggregationType).read .data (.obj ms) = .ok r)
    (found : ms.lookup "buckets" = some (.list vs)) :
    ∃ ws, (AggregationResult.ofRecord r).buckets = some (ws.map Bucket.ofRecord) ∧
      List.Forall₂ (fun v w => (FieldType.record bucketType).read .data v = .ok w) vs ws := by
  have own : bucketsType.read .data (.list vs) = .ok (r.fields.get "buckets") :=
    read_record_given (by decide) read bucketsField_mem (FieldSpec.valueIn_of_lookup found)
  generalize listed : r.fields.get "buckets" = w at own
  cases read_buckets_iff.mp own with
  | array each => exact ⟨_, by rw [AggregationResult.ofRecord, listed]; rfl, each⟩

/-! Members of replies -/

/-- The member that a reply has the container of its hits in. -/
def hitsField : FieldSpec FieldType := .required "hits" (.record hitsType)

/-- The member that a reply has the results of aggregations in. -/
def aggregationsField : FieldSpec FieldType :=
  .preset "aggregations" (.dict (.record aggregationType)) (.obj [])

theorem hitsField_mem : hitsField ∈ resultType.fields := by
  simp [resultType, hitsField]

theorem aggregationsField_mem : aggregationsField ∈ resultType.fields := by
  simp [resultType, aggregationsField]

theorem hitsField_only : ∀ g ∈ resultType.fields,
    g.outerName = "hits" ∨ g.name = "hits" → g = hitsField := by
  simp [resultType, hitsField, FieldSpec.required, FieldSpec.optional, FieldSpec.preset,
    FieldSpec.writtenAs]

theorem aggregationsField_only : ∀ g ∈ resultType.fields,
    g.outerName = "aggregations" ∨ g.name = "aggregations" → g = aggregationsField := by
  simp [resultType, aggregationsField, FieldSpec.required, FieldSpec.optional, FieldSpec.preset,
    FieldSpec.writtenAs]

/-- The member that the container of the hits has the hits in. -/
def hitListField : FieldSpec FieldType :=
  .preset "hits" (.list false (.record hitType)) (.list [])

theorem hitListField_mem : hitListField ∈ hitsType.fields := by
  simp [hitsType, hitListField]

theorem hitListField_only : ∀ g ∈ hitsType.fields,
    g.outerName = "hits" ∨ g.name = "hits" → g = hitListField := by
  simp [hitsType, hitListField, FieldSpec.optional, FieldSpec.preset]

theorem resultType_distinct : (resultType.fields.map FieldSpec.name).Nodup := by decide

/-! Results of aggregations -/

theorem decode_ok : decode (.data (.obj ms)) = .ok result ↔
    ∃ r, (FieldType.record resultType).read .data (.obj ms) = .ok r ∧
      SearchResult.ofRecord r = result := by
  rw [decode, map_ok]
  exact exists_congr fun r => and_congr_left fun _ => mapError_ok

theorem read_aggregations_ok
    (read : (FieldType.dict (.record aggregationType)).read .data (.obj results) = .ok w) :
    List.Forall₂ (fun m a => a.1 = m.1 ∧ AggregationResult.read m.2 = .ok a.2) results
      (w.fields.map fun m => (m.1, AggregationResult.ofRecord m.2)) := by
  obtain ⟨out, rfl, each⟩ := read_dict_ok.mp read
  refine List.forall₂_map_right_iff.mpr (each.imp ?_)
  rintro m p ⟨name, own⟩
  exact ⟨name, map_ok.mpr ⟨p.2, own, rfl⟩⟩

/-- Each result of an aggregation is decoded to what it is read as by itself. -/
theorem decode_aggregations (decoded : decode (.data (.obj ms)) = .ok result)
    (found : ms.lookup "aggregations" = some (.obj results)) :
    List.Forall₂ (fun m a => a.1 = m.1 ∧ AggregationResult.read m.2 = .ok a.2) results
      result.aggregations := by
  obtain ⟨r, read, rfl⟩ := decode_ok.mp decoded
  exact read_aggregations_ok (read_record_given resultType_distinct read aggregationsField_mem
    (FieldSpec.valueIn_of_lookup found))

theorem lookup_named {α : Type} {R : Value → α → Prop} {out : List (String × α)}
    (each : List.Forall₂ (fun m a => a.1 = m.1 ∧ R m.2 a.2) ms out)
    (found : ms.lookup name = some v) : ∃ a, out.lookup name = some a ∧ R v a := by
  induction each with
  | nil => cases found
  | @cons m a ms out first _ ih =>
    obtain ⟨n, v'⟩ := m
    obtain ⟨_, a⟩ := a
    obtain ⟨rfl, own⟩ := first
    rw [List.lookup_cons] at found ⊢
    cases here : name == _ with
    | true =>
      simp only [here, Option.some.injEq] at found
      exact ⟨a, rfl, found ▸ own⟩
    | false =>
      simp only [here] at found
      exact ih found

theorem lookup_aggregations (decoded : decode (.data (.obj ms)) = .ok result)
    (found : ms.lookup "aggregations" = some (.obj results)) (there : results.lookup name = some v) :
    ∃ a, result.aggregations.lookup name = some a ∧ AggregationResult.read v = .ok a :=
  lookup_named (R := fun v a => AggregationResult.read v = .ok a)
    (decode_aggregations decoded found) there

/-! A reply with one more result -/

/-- The results of aggregations in a reply. -/
def resultsIn (ms : Members) : Members := ((ms.get "aggregations").members?).getD []

/-- The reply with the result of an aggregation set. -/
def withResult (ms : Members) (name : String) (v : Value) : Members :=
  ms.put "aggregations" (.obj ((resultsIn ms).put name v))

/-- The results in a reply that can be decoded can be read. -/
theorem resultsIn_readable (decoded : decode (.data (.obj ms)) = .ok result) :
    ∀ m ∈ resultsIn ms, ∃ w, (FieldType.record aggregationType).read .data m.2 = .ok w := by
  obtain ⟨r, read, -⟩ := decode_ok.mp decoded
  rw [resultsIn, Members.get]
  cases found : ms.lookup "aggregations" with
  | none => exact List.forall_mem_nil _
  | some v =>
    have own : (FieldType.dict (.record aggregationType)).read .data v =
        .ok (r.fields.get "aggregations") :=
      read_record_given resultType_distinct read aggregationsField_mem
        (FieldSpec.valueIn_of_lookup found)
    cases v with
    | obj results => exact read_dict_readable.mp ⟨_, own⟩
    | _ => exact List.forall_mem_nil _

/-- A reply with one more result is decoded just where the result can be read, and to what it is
read as. -/
theorem decode_withResult {base : SearchResult} {P : AggregationResult → Prop}
    (decoded : decode (.data (.obj ms)) = .ok base) :
    (∃ result a, decode (.data (.obj (withResult ms name v))) = .ok result ∧
      result.aggregations.lookup name = some a ∧ P a) ↔
      ∃ a, AggregationResult.read v = .ok a ∧ P a := by
  have found := Members.lookup_put_self ms "aggregations" (.obj ((resultsIn ms).put name v))
  constructor
  · rintro ⟨result, a, whole, there, holds⟩
    obtain ⟨b, same, own⟩ := lookup_aggregations whole found
      (Members.lookup_put_self _ name v)
    rw [there] at same
    obtain rfl := Option.some.inj same
    exact ⟨a, own, holds⟩
  · rintro ⟨a, own, holds⟩
    have each : ∀ m ∈ (resultsIn ms).put name v,
        ∃ w, (FieldType.record aggregationType).read .data m.2 = .ok w := by
      intro m inside
      rcases Members.mem_of_mem_put inside with there | rfl
      · exact resultsIn_readable decoded m there
      · obtain ⟨w, read, -⟩ := map_ok.mp own
        exact ⟨w, read⟩
    obtain ⟨r, before, -⟩ := decode_ok.mp decoded
    obtain ⟨r, read⟩ := read_record_replaced aggregationsField_mem aggregationsField_only
      (fun n other => Members.lookup_put_of_ne ms _ other) found (read_dict_readable.mpr each)
      ⟨r, before⟩
    have whole : decode (.data (.obj (withResult ms name v))) = .ok (.ofRecord r) :=
      decode_ok.mpr ⟨r, read, rfl⟩
    obtain ⟨b, there, same⟩ := lookup_aggregations whole found
      (Members.lookup_put_self _ name v)
    rw [own] at same
    obtain rfl := Except.ok.inj same
    exact ⟨_, a, whole, there, holds⟩

end PortableSearch.Reply
