import PortableSearch.Proofs.Reply.Residual
import PortableSearch.Proofs.Shape.Changed

/-! Replies with a member more. A member that no field has as a name may be put anywhere into any
object that is read at a kind of record: the reply is decoded with the same faults, or to a result
that has the member among the others of that object and is the same elsewhere. -/
namespace PortableSearch.Reply
open Shape Checked

/-- The objects of a reply that are read as records: the reply itself, its shards, the container of
its hits, a hit, the result of an aggregation and a bucket of one. -/
inductive Spot where
  | reply
  | shards
  | hits
  | hit (i : Nat)
  | result (i : Nat)
  | bucket (i j : Nat)

/-- What the object is read as. -/
def Spot.type : Spot → RecordType FieldType
  | reply => resultType
  | shards => shardsType
  | hits => hitsType
  | hit _ => hitType
  | result _ => aggregationType
  | bucket .. => bucketType

/-- A container of buckets with another object as one of them. -/
inductive BucketPut (o o' : Members) (j : Nat) : Value → Value → Prop
  | array {vs : List Value} : vs[j]? = some (.obj o) →
    BucketPut o o' j (.list vs) (.list (vs.set j (.obj o')))
  | keyed {ms : Members} {label : String} : ms[j]? = some (label, .obj o) →
    BucketPut o o' j (.obj ms) (.obj (ms.set j (label, .obj o')))

/-- The member that a reply has its shards in. -/
def shardsField : FieldSpec FieldType :=
  (FieldSpec.preset "shards" (.record shardsType) noShards).writtenAs "_shards"

/-- A reply with another object at a spot. -/
inductive ObjectPut (o o' : Members) : Spot → Members → Members → Prop
  | reply : ObjectPut o o' .reply o o'
  | shards {ms : Members} {name : String} : shardsField.nameIn ms = some name →
    ms.lookup name = some (.obj o) → ObjectPut o o' .shards ms (ms.put name (.obj o'))
  | hits {ms : Members} : ms.lookup "hits" = some (.obj o) →
    ObjectPut o o' .hits ms (ms.put "hits" (.obj o'))
  | hit {ms container : Members} {vs : List Value} {i : Nat} :
    ms.lookup "hits" = some (.obj container) → container.lookup "hits" = some (.list vs) →
    vs[i]? = some (.obj o) →
    ObjectPut o o' (.hit i) ms
      (ms.put "hits" (.obj (container.put "hits" (.list (vs.set i (.obj o'))))))
  | result {ms results : Members} {i : Nat} {name : String} :
    ms.lookup "aggregations" = some (.obj results) → results[i]? = some (name, .obj o) →
    ObjectPut o o' (.result i) ms (ms.put "aggregations" (.obj (results.set i (name, .obj o'))))
  | bucket {ms results own : Members} {i j : Nat} {name : String} {container container' : Value} :
    ms.lookup "aggregations" = some (.obj results) → results[i]? = some (name, .obj own) →
    own.lookup "buckets" = some container → BucketPut o o' j container container' →
    ObjectPut o o' (.bucket i j) ms
      (ms.put "aggregations" (.obj (results.set i (name, .obj (own.put "buckets" container')))))

/-- Other members that have one more, at the place that it has among all members. -/
def Gained (front : Members) (m : String × Value) (back others others' : Members) : Prop :=
  ∃ before after, others = before ++ after ∧ others' = before ++ m :: after ∧
    before.Sublist front ∧ after.Sublist back

/-- Two results that differ in the other members of a spot. The container of the hits has none. The
names that the result of an aggregation was given with are those of its fields and of these. -/
inductive Gains (front : Members) (m : String × Value) (back : Members) :
    Spot → SearchResult → SearchResult → Prop
  | reply {r : SearchResult} {others : Members} : Gained front m back r.other others →
    Gains front m back .reply r { r with other := others }
  | shards {r : SearchResult} {others : Members} : Gained front m back r.shards.other others →
    Gains front m back .shards r { r with shards := { r.shards with other := others } }
  | hits {r : SearchResult} : Gains front m back .hits r r
  | hit {r : SearchResult} {i : Nat} {h : Hit} {others : Members} : r.hits.hits[i]? = some h →
    Gained front m back h.other others →
    Gains front m back (.hit i) r
      { r with hits := { r.hits with hits := r.hits.hits.set i { h with other := others } } }
  | result {r : SearchResult} {i : Nat} {name : String} {a : AggregationResult}
    {known : List String} {others : Members} : r.aggregations[i]? = some (name, a) →
    Gained front m back a.other others → a.given = known ++ a.other.names →
    Gains front m back (.result i) r { r with
      aggregations := r.aggregations.set i
        (name, { a with given := known ++ others.names, other := others }) }
  | bucket {r : SearchResult} {i j : Nat} {name : String} {a : AggregationResult}
    {bs : List Bucket} {b : Bucket} {others : Members} : r.aggregations[i]? = some (name, a) →
    a.buckets = some bs → bs[j]? = some b → Gained front m back b.other others →
    Gains front m back (.bucket i j) r { r with
      aggregations := r.aggregations.set i
        (name, { a with buckets := some (bs.set j { b with other := others }) }) }

/-! Objects -/

/-- Of some members, those that are left over and kept in an object with the names of another. -/
def residue (type : RecordType FieldType) (o ms : Members) : Members :=
  if type.keepsOthers then ms.filter fun m => decide (LeftOver type.fields o m.1) else []

/-- Records that are the same but for other members that are kept. -/
def SameButFor (others others' : Members) (r r' : Value) : Prop :=
  ∃ kinds given fields, r = .record kinds (given ++ others.names) fields others ∧
    r' = .record kinds (given ++ others'.names) fields others'

variable {type : RecordType FieldType} {front back o o' : Members} {m : String × Value}

theorem buildRecord_residue {names : Members} (kinds : List String) (out : Members)
    (left : ∀ n, LeftOver type.fields o n ↔ LeftOver type.fields names n) :
    buildRecord .data kinds type o out = .record kinds
      (givenNames type.fields o ++ (residue type names o).names) out (residue type names o) := by
  have others : unusedMembers type.fields o =
      o.filter fun m => decide (LeftOver type.fields names m.1) := by
    simp only [unusedMembers_eq, left]
  simp only [buildRecord, residue, others, Source.settle, List.map_id']

/-- The fields do not see a member that is not modelled. -/
theorem read_record_unknown (type : RecordType FieldType) {name : String} (unknown : ¬ Models type name)
    (same : ∀ n, n ≠ name → o'.lookup n = o.lookup n) :
    Related (SameButFor (residue type o o) (residue type o o'))
      ((FieldType.record type).read .data (.obj o))
      ((FieldType.record type).read .data (.obj o')) := by
  have apart : ∀ f ∈ type.fields, f.outerName ≠ name ∧ f.name ≠ name := by
    intro f inside
    exact ⟨fun outer => unknown ⟨f, inside, .inl outer⟩, fun own => unknown ⟨f, inside, .inr own⟩⟩
  have names : ∀ n, n ≠ name → (n ∈ o'.names ↔ n ∈ o.names) := by
    intro n different
    rw [Members.mem_names_iff, Members.mem_names_iff, same n different]
  have fields : readFields .data type.fields o' = readFields .data type.fields o := by
    refine readFields_congr fun f inside => ?_
    apply readField_congr
    · rw [same _ (apart f inside).1]
    · rw [same _ (apart f inside).2]
  have given : givenNames type.fields o' = givenNames type.fields o := by
    rw [givenNames, givenNames]
    refine congrArg _ (List.filter_congr fun f inside => ?_)
    rw [nameIn_congr (names _ (apart f inside).1) (names _ (apart f inside).2)]
  have left : ∀ n, LeftOver type.fields o' n ↔ LeftOver type.fields o n := by
    intro n
    refine forall₂_congr fun f inside => and_congr_right fun _ => imp_congr_right fun _ => ?_
    exact names _ (apart f inside).1
  have built (out : Members) := buildRecord_residue [type.kind] out left
  have built' (out : Members) :=
    buildRecord_residue (o := o) [type.kind] out fun n => (Iff.rfl : LeftOver type.fields o n ↔ _)
  obtain ⟨kind, specs, keepsOthers⟩ := type
  simp only [FieldType.read, Source.lastOfEach, readRecordFields]
  rw [show readFields .data specs o' = _ from fields]
  refine Related.map (R := Eq) (.same fun _ _ => rfl) ?_
  rintro out _ rfl
  exact ⟨[kind], givenNames specs o, out, built' out, by rw [built, given]⟩

/-- Records with other members of which one has one more. -/
def RecordGains (front : Members) (m : String × Value) (back : Members) (r r' : Value) : Prop :=
  ∃ others others', SameButFor others others' r r' ∧ Gained front m back others others'

theorem lookup_inserted {n : String} (different : n ≠ m.1) :
    (front ++ m :: back).lookup n = (front ++ back).lookup n := by
  obtain ⟨name, v⟩ := m
  have skipped : (n == name) = false := by simpa using different
  rw [List.lookup_append, List.lookup_append, List.lookup_cons, skipped]

/-- An object whose members are left over as those of another is keeps a member more. -/
theorem object_gains (unknown : ¬ Models type m.1) (keeps : type.keepsOthers = true)
    (same : ∀ n, n ≠ m.1 → o'.lookup n = o.lookup n)
    (left : residue type o o = residue type o (front ++ back))
    (left' : residue type o o' = residue type o (front ++ m :: back)) :
    Related (RecordGains front m back) ((FieldType.record type).read .data (.obj o))
      ((FieldType.record type).read .data (.obj o')) := by
  have kept : LeftOver type.fields o m.1 := by
    intro f inside
    exact ⟨fun outer => unknown ⟨f, inside, .inl outer⟩,
      fun own => absurd ⟨f, inside, .inr own⟩ unknown⟩
  have gained : Gained front m back (residue type o o) (residue type o o') := by
    rw [left, left']
    simp only [residue, keeps, if_true, List.filter_append, List.filter_cons,
      decide_eq_true kept]
    exact ⟨_, _, rfl, rfl, List.filter_sublist, List.filter_sublist⟩
  have read := read_record_unknown type unknown same
  generalize (FieldType.record type).read .data (.obj o) = c at read ⊢
  generalize (FieldType.record type).read .data (.obj o') = d at read ⊢
  cases read with
  | results apart => exact .results ⟨_, _, apart, gained⟩
  | faults fs => exact .faults fs

theorem inserted_gains (type : RecordType FieldType) (front back : Members)
    (unknown : ¬ Models type m.1) (keeps : type.keepsOthers = true) :
    Related (RecordGains front m back)
      ((FieldType.record type).read .data (.obj (front ++ back)))
      ((FieldType.record type).read .data (.obj (front ++ m :: back))) :=
  object_gains unknown keeps (fun _ => lookup_inserted) rfl rfl

/-- The name of a bucket is set as its key, wherever the key stands. -/
theorem keyed_gains {label : String} (unknown : ¬ Models bucketType m.1) :
    Related (RecordGains front m back)
      ((FieldType.record bucketType).read .data (withKey label (.obj (front ++ back))))
      ((FieldType.record bucketType).read .data (withKey label (.obj (front ++ m :: back)))) := by
  have dropped (o ms : Members) :
      residue bucketType o (ms.put "key" (.str label)) = residue bucketType o ms := by
    simp only [residue, bucketType, if_true]
    refine Members.filter_put (p := fun n => decide (LeftOver bucketType.fields o n)) ?_ ms _
    exact decide_eq_false (not_leftOver (f := ⟨"key", _, _, _⟩) List.mem_cons_self)
  refine object_gains unknown rfl (fun n different => ?_) (dropped _ _) (dropped _ _)
  by_cases key : n = "key"
  · rw [key, Members.lookup_put_self, Members.lookup_put_self]
  · rw [Members.lookup_put_of_ne _ _ key, Members.lookup_put_of_ne _ _ key,
      lookup_inserted different]

theorem container_gains {j : Nat} {v v' : Value} (unknown : ¬ Models bucketType m.1)
    (put : BucketPut (front ++ back) (front ++ m :: back) j v v') :
    Related (ItemChanged j (RecordGains front m back)) (bucketsType.read .data v)
      (bucketsType.read .data v') := by
  cases put with
  | array found =>
    rw [read_buckets_list, read_buckets_list]
    exact read_list_set found (inserted_gains _ _ _ unknown rfl)
  | keyed found =>
    rw [read_buckets_obj, read_buckets_obj, List.map_set]
    refine read_list_set ?_ (keyed_gains unknown)
    rw [List.getElem?_map, found]
    rfl

/-! Replies -/

/-- A reply with a part that is read alike, up to a relation, is decoded so. -/
theorem decode_related {ms ms' : Members} {R : Value → Value → Prop}
    {S : SearchResult → SearchResult → Prop}
    (related : Related R ((FieldType.record resultType).read .data (.obj ms))
      ((FieldType.record resultType).read .data (.obj ms')))
    (image : ∀ r r', R r r' → S (.ofRecord r) (.ofRecord r')) :
    (∀ fault, decode (.data (.obj ms)) = .error fault →
      decode (.data (.obj ms')) = .error fault) ∧
    ∀ result, decode (.data (.obj ms)) = .ok result →
      ∃ result', decode (.data (.obj ms')) = .ok result' ∧ S result result' := by
  simp only [decode, checkRaw, check]
  generalize (FieldType.record resultType).read .data (.obj ms) = c at related ⊢
  generalize (FieldType.record resultType).read .data (.obj ms') = d at related ⊢
  cases related with
  | results own =>
    constructor
    · intro fault failed
      cases failed
    · intro result decoded
      cases decoded
      exact ⟨_, rfl, image _ _ own⟩
  | faults fs =>
    refine ⟨fun fault failed => failed, fun result decoded => ?_⟩
    cases decoded

/-! What differs in a reply if a field of a record does -/

variable {R : Value → Value → Prop} {r r' : Value}

theorem shards_changed (changed : RecordChanged "shards" R r r') : ∃ v v', R v v' ∧
    (SearchResult.ofRecord r).shards = .ofRecord v ∧
    SearchResult.ofRecord r' = { SearchResult.ofRecord r with shards := .ofRecord v' } := by
  obtain ⟨kinds, given, fields, fields', others, rfl, rfl, own, rest⟩ := changed
  refine ⟨_, _, own, rfl, ?_⟩
  simp only [SearchResult.ofRecord, Value.fields, Value.others, Members.int, Members.flag,
    Members.text?, rest "took" (by decide), rest "timed_out" (by decide),
    rest "scroll_id" (by decide), rest "hits" (by decide), rest "aggregations" (by decide)]

theorem hits_changed (changed : RecordChanged "hits" R r r') : ∃ v v', R v v' ∧
    (SearchResult.ofRecord r).hits = .ofRecord v ∧
    SearchResult.ofRecord r' = { SearchResult.ofRecord r with hits := .ofRecord v' } := by
  obtain ⟨kinds, given, fields, fields', others, rfl, rfl, own, rest⟩ := changed
  refine ⟨_, _, own, rfl, ?_⟩
  simp only [SearchResult.ofRecord, Value.fields, Value.others, Members.int, Members.flag,
    Members.text?, rest "took" (by decide), rest "timed_out" (by decide),
    rest "scroll_id" (by decide), rest "shards" (by decide), rest "aggregations" (by decide)]

theorem hit_changed {i : Nat} (changed : RecordChanged "hits" (ItemChanged i R) r r') :
    ∃ v v', R v v' ∧ (Hits.ofRecord r).hits[i]? = some (.ofRecord v) ∧
      Hits.ofRecord r' = { Hits.ofRecord r with
        hits := (Hits.ofRecord r).hits.set i (.ofRecord v') } := by
  obtain ⟨kinds, given, fields, fields', others, rfl, rfl, own, rest⟩ := changed
  obtain ⟨vs, ws, listed, listed', v, v', found, own, rfl⟩ := own
  refine ⟨v, v', own, ?_, ?_⟩
  · simp [Hits.ofRecord, Value.fields, Members.items, listed, Value.items, found]
  · simp only [Hits.ofRecord, Value.fields, Members.int, Members.double?, Members.items,
      rest "total" (by decide), rest "max_score" (by decide), listed, listed', Value.items,
      List.map_set]

theorem result_changed {i : Nat} (changed : RecordChanged "aggregations" (MemberChanged i R) r r') :
    ∃ name v v', R v v' ∧
      (SearchResult.ofRecord r).aggregations[i]? = some (name, .ofRecord v) ∧
      SearchResult.ofRecord r' = { SearchResult.ofRecord r with
        aggregations := (SearchResult.ofRecord r).aggregations.set i (name, .ofRecord v') } := by
  obtain ⟨kinds, given, fields, fields', others, rfl, rfl, own, rest⟩ := changed
  obtain ⟨ms, ns, listed, listed', ⟨_, v⟩, ⟨name, v'⟩, found, ⟨rfl, own⟩, rfl⟩ := own
  refine ⟨name, v, v', own, ?_, ?_⟩
  · simp [SearchResult.ofRecord, Value.fields, listed, found]
  · simp only [SearchResult.ofRecord, Value.fields, Value.others, Members.int, Members.flag,
      Members.text?, rest "took" (by decide), rest "timed_out" (by decide),
      rest "scroll_id" (by decide), rest "shards" (by decide), rest "hits" (by decide), listed,
      listed', List.map_set]

theorem bucket_changed {j : Nat} (changed : RecordChanged "buckets" (ItemChanged j R) r r') :
    ∃ bs v v', R v v' ∧ (AggregationResult.ofRecord r).buckets = some bs ∧
      bs[j]? = some (.ofRecord v) ∧ AggregationResult.ofRecord r' =
        { AggregationResult.ofRecord r with buckets := some (bs.set j (.ofRecord v')) } := by
  obtain ⟨kinds, given, fields, fields', others, rfl, rfl, own, rest⟩ := changed
  obtain ⟨vs, ws, listed, listed', v, v', found, own, rfl⟩ := own
  refine ⟨vs.map Bucket.ofRecord, v, v', own, ?_, ?_, ?_⟩
  · simp [AggregationResult.ofRecord, Value.fields, listed, Value.present?, Value.items]
  · rw [List.getElem?_map, found]
    rfl
  · simp only [AggregationResult.ofRecord, Value.fields, Value.others, Value.given, Members.int?,
      Members.double?, rest "doc_count" (by decide),
      rest "doc_count_error_upper_bound" (by decide), rest "sum_other_doc_count" (by decide),
      rest "count" (by decide), rest "min" (by decide), rest "max" (by decide),
      rest "avg" (by decide), rest "sum" (by decide), listed', Value.present?, Option.map_some,
      Value.items, List.map_set]

theorem shardsField_only {ms : Members} {name : String} (found : shardsField.nameIn ms = some name) :
    ∀ g ∈ resultType.fields, g.outerName = name ∨ g.name = name → g = shardsField := by
  rcases (nameIn_some found).2 with rfl | ⟨-, rfl⟩ <;>
    simp [resultType, shardsField, FieldSpec.required, FieldSpec.optional, FieldSpec.preset,
      FieldSpec.writtenAs]

theorem shards_gains (gains : RecordGains front m back r r') : ∃ others,
    Gained front m back (Shards.ofRecord r).other others ∧
      Shards.ofRecord r' = { Shards.ofRecord r with other := others } := by
  obtain ⟨_, others, ⟨kinds, given, fields, rfl, rfl⟩, gained⟩ := gains
  exact ⟨others, gained, rfl⟩

theorem hit_gains (gains : RecordGains front m back r r') : ∃ others,
    Gained front m back (Hit.ofRecord r).other others ∧
      Hit.ofRecord r' = { Hit.ofRecord r with other := others } := by
  obtain ⟨_, others, ⟨kinds, given, fields, rfl, rfl⟩, gained⟩ := gains
  exact ⟨others, gained, rfl⟩

theorem bucket_gains (gains : RecordGains front m back r r') : ∃ others,
    Gained front m back (Bucket.ofRecord r).other others ∧
      Bucket.ofRecord r' = { Bucket.ofRecord r with other := others } := by
  obtain ⟨_, others, ⟨kinds, given, fields, rfl, rfl⟩, gained⟩ := gains
  exact ⟨others, gained, rfl⟩

theorem result_gains (gains : RecordGains front m back r r') : ∃ known others,
    Gained front m back (AggregationResult.ofRecord r).other others ∧
      (AggregationResult.ofRecord r).given = known ++ (AggregationResult.ofRecord r).other.names ∧
      AggregationResult.ofRecord r' =
        { AggregationResult.ofRecord r with given := known ++ others.names, other := others } := by
  obtain ⟨_, others, ⟨kinds, given, fields, rfl, rfl⟩, gained⟩ := gains
  exact ⟨given, others, gained, rfl, rfl⟩

/-- A reply with a member more that is not modelled where it stands has the same faults, or else the
same result but for that member: it is among the others of its object, at its place among these. The
container of the hits does not keep it. -/
theorem decode_inserted {spot : Spot} {ms ms' : Members}
    (inserted : ObjectPut (front ++ back) (front ++ m :: back) spot ms ms')
    (unknown : ¬ Models spot.type m.1) :
    (∀ fault, decode (.data (.obj ms)) = .error fault →
      decode (.data (.obj ms')) = .error fault) ∧
    ∀ result, decode (.data (.obj ms)) = .ok result →
      ∃ result', decode (.data (.obj ms')) = .ok result' ∧
        Gains front m back spot result result' := by
  cases inserted with
  | reply =>
    refine decode_related (inserted_gains _ _ _ unknown rfl) ?_
    rintro _ _ ⟨_, others, ⟨kinds, given, fields, rfl, rfl⟩, gained⟩
    exact .reply gained
  | shards named found =>
    have own := inserted_gains shardsType front back unknown rfl
    refine decode_related (read_record_put resultType_distinct (by simp [resultType, shardsField])
      named found (shardsField_only named) own) fun r r' changed => ?_
    obtain ⟨v, v', gains, before, after⟩ := shards_changed changed
    obtain ⟨others, gained, same⟩ := shards_gains gains
    rw [← before] at gained same
    rw [after, same]
    exact .shards gained
  | hits found =>
    refine decode_related (read_record_put resultType_distinct hitsField_mem
      (nameIn_outer found) found hitsField_only
      (read_record_unknown hitsType unknown fun _ => lookup_inserted))
      fun r r' changed => ?_
    obtain ⟨v, v', apart, before, after⟩ := hits_changed changed
    have same : Hits.ofRecord v' = Hits.ofRecord v := by
      obtain ⟨kinds, given, fields, rfl, rfl⟩ := apart
      rfl
    rw [after, same, ← before]
    exact .hits
  | hit found listed there =>
    have own := inserted_gains hitType front back unknown rfl
    have container := read_record_put (by decide) hitListField_mem (nameIn_outer listed) listed
      hitListField_only (read_list_set there own)
    refine decode_related (read_record_put resultType_distinct hitsField_mem
      (nameIn_outer found) found hitsField_only container) fun r r' changed => ?_
    obtain ⟨w, w', changed, before, after⟩ := hits_changed changed
    obtain ⟨v, v', gains, there, same⟩ := hit_changed changed
    obtain ⟨others, gained, own⟩ := hit_gains gains
    rw [← before] at there same
    rw [after, same, own]
    exact .hit there gained
  | result found there =>
    have own := inserted_gains aggregationType front back unknown rfl
    refine decode_related (read_record_put resultType_distinct aggregationsField_mem
      (nameIn_outer found) found aggregationsField_only (read_dict_set there own))
      fun r r' changed => ?_
    obtain ⟨name, v, v', gains, there, after⟩ := result_changed changed
    obtain ⟨known, others, gained, given, own⟩ := result_gains gains
    rw [after, own]
    exact .result there gained given
  | bucket found there listed put =>
    have own := read_record_put (by decide) bucketsField_mem (nameIn_outer listed) listed
      bucketsField_only (container_gains unknown put)
    refine decode_related (read_record_put resultType_distinct aggregationsField_mem
      (nameIn_outer found) found aggregationsField_only (read_dict_set there own))
      fun r r' changed => ?_
    obtain ⟨name, w, w', changed, there, after⟩ := result_changed changed
    obtain ⟨bs, v, v', gains, listed, inside, same⟩ := bucket_changed changed
    obtain ⟨others, gained, own⟩ := bucket_gains gains
    rw [after, same, own]
    exact .bucket there listed inside gained

/-- A member is put behind the key of a bucket under its name, which has been decoded before. -/
theorem nested_result_gained : ∃ result result',
    decode (.data (.obj [("took", .int 1), ("hits", .obj []), ("aggregations", .obj [("by", .obj
      [("buckets", .obj [("low", .obj [("max", .int 1), ("doc_count", .int 2)])])])])])) =
        .ok result ∧
    decode (.data (.obj [("took", .int 1), ("hits", .obj []), ("aggregations", .obj [("by", .obj
      [("buckets", .obj [("low", .obj
        [("max", .int 1), ("nested", .obj []), ("doc_count", .int 2)])])])])])) = .ok result' ∧
    Gains [("max", .int 1)] ("nested", .obj []) [("doc_count", .int 2)] (.bucket 0 0)
      result result' := by
  have inserted : ObjectPut ([("max", .int 1)] ++ [("doc_count", .int 2)])
      ([("max", .int 1)] ++ ("nested", .obj []) :: [("doc_count", .int 2)]) (.bucket 0 0)
      [("took", .int 1), ("hits", .obj []), ("aggregations", .obj [("by", .obj
        [("buckets", .obj [("low", .obj [("max", .int 1), ("doc_count", .int 2)])])])])] _ :=
    .bucket rfl rfl rfl (.keyed rfl)
  have unknown : ¬ Models (Spot.bucket 0 0).type "nested" := by decide
  obtain ⟨result', decoded, gains⟩ := (decode_inserted inserted unknown).2 _ rfl
  exact ⟨_, result', rfl, decoded, gains⟩

end PortableSearch.Reply
