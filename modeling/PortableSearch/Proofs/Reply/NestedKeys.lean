import PortableSearch.Proofs.Reply.Decoded

/-! Results of nested aggregations, which a reply has under the keys that the caller chose for them.
They stand among the members that the kinds of replies model, so keys that are names of these are
not free: such a result is taken for the member. -/
namespace PortableSearch.Reply
open Shape
variable {source : Source} {ms : Members} {f : FieldSpec FieldType} {t : FieldType} {v w : Value}

/-! Fields that can be read -/

theorem readsAs_of_value (found : f.valueIn ms = some v) (own : ∃ w, f.type.read source v = .ok w) :
    ∃ w, f.ReadsAs source ms w := by
  simpa only [FieldSpec.ReadsAs, found] using own

theorem readsAs_of_none (absent : f.valueIn ms = none) (filled : f.fallback = some w) :
    ∃ w, f.ReadsAs source ms w := by
  simp only [FieldSpec.ReadsAs, absent]
  exact ⟨w, filled⟩

theorem valueIn_of_absent (outer : f.outerName ∉ ms.names) (own : f.name ∉ ms.names) :
    f.valueIn ms = none := by
  rw [Members.mem_names_iff, Bool.not_eq_true, Option.isSome_eq_false_iff,
    Option.isNone_iff_eq_none] at outer own
  rw [FieldSpec.valueIn, outer, own, Option.or_none]

theorem read_nullable (own : ∃ w, t.read source v = .ok w) :
    ∃ w, (FieldType.nullable t).read source v = .ok w := by
  cases v with
  | null => exact ⟨.null, by rw [FieldType.read]⟩
  | _ => simpa only [FieldType.read] using own

theorem readsAs_of_any (any : f.type = .nullable .any) (filled : f.fallback = some w) :
    ∃ w, f.ReadsAs .data ms w := by
  cases found : f.valueIn ms with
  | none => exact readsAs_of_none found filled
  | some v =>
    refine readsAs_of_value found ?_
    rw [any]
    exact read_nullable ⟨v, by rw [FieldType.read]; rfl⟩

theorem read_display (v : Value) :
    ∃ w, (FieldType.prepared .display (.nullable .text)).read .data v = .ok w := by
  have written (s : String) : (FieldType.nullable .text).read .data (.str s) = .ok (.str s) := by
    rw [FieldType.read]
    · rfl
    · intro null
      cases null
  rw [FieldType.read, Source.settle]
  cases v with
  | null => exact ⟨.null, by simp [Preparation.apply, FieldType.read]⟩
  | _ => exact ⟨_, written _⟩

theorem read_integer {n : Int} (counted : readInteger v = .ok n) :
    FieldType.integer.read source v = .ok (.int n) := by
  rw [FieldType.read, counted]
  rfl

/-! Buckets -/

section
variable {key count : Value} {k : String} {nested : Members} {n : Int}

/-- A bucket with the result of one nested aggregation. -/
def nestingBucket (key count : Value) (k : String) (nested : Members) : Members :=
  [("key", key), ("doc_count", count), (k, .obj nested)]

theorem nestingBucket_read (key : Value) (nested : Members) (counted : readInteger count = .ok n)
    (free : k ∉ ["key", "key_as_string", "doc_count"]) :
    ∃ r, (FieldType.record bucketType).read .data (.obj (nestingBucket key count k nested)) =
      .ok r := by
  simp only [List.mem_cons, List.not_mem_nil, or_false, not_or] at free
  obtain ⟨notKey, notText, notCount⟩ := free
  rw [read_record_readable]
  simp only [bucketType, List.forall_mem_cons]
  refine ⟨?key, ?text, ?count, ?start, ?stop, List.forall_mem_nil _⟩
  case key => exact readsAs_of_value (FieldSpec.valueIn_of_lookup rfl) (read_display key)
  case text =>
    have absent : "key_as_string" ∉ Members.names (nestingBucket key count k nested) := by
      simp [nestingBucket, Ne.symm notText]
    exact readsAs_of_none (valueIn_of_absent absent absent) rfl
  case count =>
    exact readsAs_of_value (FieldSpec.valueIn_of_lookup rfl) ⟨.int n, read_integer counted⟩
  case start => exact readsAs_of_any rfl rfl
  case stop => exact readsAs_of_any rfl rfl

theorem nestingBucket_leftOver (key count : Value) (nested : Members)
    (free : k ∉ ["key", "key_as_string", "doc_count"]) :
    LeftOver bucketType.fields (nestingBucket key count k nested) k ↔
      k ∉ ["from", "from_", "to"] := by
  simp [nestingBucket, LeftOver, bucketType, FieldSpec.optional, FieldSpec.preset,
    FieldSpec.writtenAs] at free ⊢
  grind

/-- The nested result is left over, and nothing else. -/
theorem nestingBucket_others (free : k ∉ ["key", "key_as_string", "doc_count"]) :
    unusedMembers bucketType.fields (nestingBucket key count k nested) =
      if k ∈ ["from", "from_", "to"] then [] else [(k, .obj nested)] := by
  have named : ¬ LeftOver bucketType.fields (nestingBucket key count k nested) "key" :=
    not_leftOver List.mem_cons_self
  have counted : ¬ LeftOver bucketType.fields (nestingBucket key count k nested) "doc_count" :=
    not_leftOver (f := .preset "doc_count" .integer (.int 0)) (by simp [bucketType])
  rw [unusedMembers_eq]
  change List.filter _ [("key", key), ("doc_count", count), (k, .obj nested)] = _
  rw [List.filter_cons_of_neg (by simpa using named),
    List.filter_cons_of_neg (by simpa using counted), List.filter_singleton]
  have left := nestingBucket_leftOver key count nested free
  by_cases taken : k ∈ ["from", "from_", "to"]
  · simp only [left, taken, not_true_eq_false, decide_false, cond_false, if_true]
  · simp only [left, taken, not_false_eq_true, decide_true, cond_true, if_false]

theorem nestingBucket_subAggregations {r : Value} {a : AggregationResult}
    (free : k ∉ ["key", "key_as_string", "doc_count"])
    (accepted : AggregationResult.read (.obj nested) = .ok a)
    (read : (FieldType.record bucketType).read .data (.obj (nestingBucket key count k nested)) =
      .ok r) :
    (∃ subs, (Bucket.ofRecord r).subAggregations = .ok subs ∧ subs.lookup k = some a) ↔
      k ∉ ["from", "from_", "to"] := by
  have other : (Bucket.ofRecord r).other =
      if k ∈ ["from", "from_", "to"] then [] else [(k, .obj nested)] := by
    rw [← nestingBucket_others free]
    exact record_others rfl read
  rw [Bucket.subAggregations, other]
  split
  next taken =>
    constructor
    · rintro ⟨subs, none, found⟩
      obtain rfl : [] = subs := Except.ok.inj none
      cases found
    · exact fun kept => absurd taken kept
  next kept =>
    have all : ([(k, Value.obj nested)] : Members).mapM (fun m =>
        (AggregationResult.read m.2).map fun r => (m.1, r)) = .ok [(k, a)] :=
      mapM_ok_iff.mpr (.cons (by rw [accepted]; rfl) .nil)
    exact ⟨fun _ => kept, fun _ => ⟨[(k, a)], all, by simp⟩⟩

end

/-! Results of aggregations -/

/-- A result with one more bucket can be read, and has it in its place. -/
theorem read_more_buckets {rms : Members} {before after : List Value} {bucket r : Value}
    {parent : AggregationResult}
    (accepted : AggregationResult.read (.obj (rms.put "buckets" (.list (before ++ after)))) =
      .ok parent)
    (read : (FieldType.record bucketType).read .data bucket = .ok r) :
    ∃ a bs, AggregationResult.read
        (.obj (rms.put "buckets" (.list (before ++ bucket :: after)))) = .ok a ∧
      a.buckets = some bs ∧ bs[before.length]? = some (.ofRecord r) := by
  obtain ⟨p, whole, -⟩ := map_ok.mp accepted
  obtain ⟨ws, -, items⟩ := result_buckets whole (Members.lookup_put_self rms "buckets" _)
  obtain ⟨early, late⟩ := List.forall_mem_append.mp (exists_forall₂.mp ⟨ws, items⟩)
  have readable : ∃ w, bucketsType.read .data (.list (before ++ bucket :: after)) = .ok w := by
    rw [read_buckets_list, read_list_readable]
    exact List.forall_mem_append.mpr ⟨early, List.forall_mem_cons.mpr ⟨⟨r, read⟩, late⟩⟩
  have found := Members.lookup_put_self rms "buckets" (.list (before ++ bucket :: after))
  obtain ⟨q, more⟩ := read_record_replaced bucketsField_mem bucketsField_only
    (fun n other => (Members.lookup_put_of_ne rms _ other).trans
      (Members.lookup_put_of_ne rms _ other).symm) found readable ⟨p, whole⟩
  obtain ⟨ws, listed, items⟩ := result_buckets more found
  obtain ⟨w, there, placed⟩ := forall₂_getElem? items (i := before.length) (a := bucket) (by simp)
  obtain rfl : r = w := Except.ok.inj (read.symm.trans there)
  exact ⟨.ofRecord q, _, map_ok.mpr ⟨q, more, rfl⟩, listed, by rw [List.getElem?_map, placed]; rfl⟩

section
variable {count : Value} {k : String} {nested : Members} {n : Int}

/-- A result without buckets, with the result of one nested aggregation. -/
def nestingResult (count : Value) (k : String) (nested : Members) : Members :=
  [("doc_count", count), (k, .obj nested)]

/-- The members of the result of an aggregation, except for its number of documents. -/
def resultNames : List String :=
  ["buckets", "doc_count_error_upper_bound", "sum_other_doc_count", "count"] ++ metricNames

/-- Where each field has one name, the members under other names are left over. -/
theorem leftOver_iff {fields : List (FieldSpec FieldType)}
    (same : ∀ f ∈ fields, f.outerName = f.name) :
    LeftOver fields ms k ↔ k ∉ fields.map FieldSpec.name := by
  rw [List.mem_map, not_exists]
  refine forall_congr' fun f => ?_
  rw [not_and]
  refine forall_congr' fun inside => ?_
  rw [same f inside]
  exact ⟨fun left => left.1, fun other => ⟨other, fun equal => absurd equal other⟩⟩

theorem aggregationType_same : ∀ f ∈ aggregationType.fields, f.outerName = f.name := by
  simp [aggregationType, metricNames, FieldSpec.optional]

theorem nestingResult_leftOver (count : Value) (nested : Members) (free : k ≠ "doc_count") :
    LeftOver aggregationType.fields (nestingResult count k nested) k ↔ k ∉ resultNames := by
  rw [leftOver_iff aggregationType_same]
  simp [aggregationType, resultNames, metricNames, FieldSpec.optional, free]

theorem nestingResult_read (nested : Members) (counted : readInteger count = .ok n)
    (free : k ≠ "doc_count") (kept : k ∉ resultNames) :
    ∃ r, (FieldType.record aggregationType).read .data (.obj (nestingResult count k nested)) =
      .ok r := by
  have filled : ∀ f ∈ aggregationType.fields, f.fallback = some .null := by
    simp [aggregationType, metricNames, FieldSpec.optional]
  have only : ∀ f ∈ aggregationType.fields, f.outerName = "doc_count" →
      f = .optional "doc_count" .integer := by
    simp [aggregationType, metricNames, FieldSpec.optional]
  rw [read_record_readable]
  intro f inside
  by_cases number : f.outerName = "doc_count"
  · obtain rfl := only f inside number
    exact readsAs_of_value (FieldSpec.valueIn_of_lookup rfl)
      (read_nullable ⟨.int n, read_integer counted⟩)
  · have other := ((nestingResult_leftOver count nested free).mpr kept f inside).1
    have absent : f.outerName ∉ Members.names (nestingResult count k nested) := by
      simp [nestingResult, number, other]
    exact readsAs_of_none
      (valueIn_of_absent absent (aggregationType_same f inside ▸ absent)) (filled f inside)

/-- The nested result is kept where it is not taken for a member of the result. -/
theorem nestingResult_other (counted : readInteger count = .ok n) (free : k ≠ "doc_count") :
    (∃ a, AggregationResult.read (.obj (nestingResult count k nested)) = .ok a ∧
      a.other.lookup k = some (.obj nested)) ↔ k ∉ resultNames := by
  have left := nestingResult_leftOver count nested free
  constructor
  · rintro ⟨a, accepted, found⟩
    obtain ⟨r, read, rfl⟩ := map_ok.mp accepted
    change r.others.lookup k = _ at found
    rw [record_others rfl read] at found
    exact left.mp (lookup_unusedMembers.mp found).1
  · intro kept
    obtain ⟨r, read⟩ := nestingResult_read nested counted free kept
    refine ⟨.ofRecord r, map_ok.mpr ⟨r, read, rfl⟩, ?_⟩
    change r.others.lookup k = _
    rw [record_others rfl read, lookup_unusedMembers]
    refine ⟨left.mpr kept, ?_⟩
    have other : (k == "doc_count") = false := by simpa using free
    simp [nestingResult, List.lookup_cons, other]

end

/-- A reply that has the result of an aggregation nested in a bucket is always decoded, and the
result is among those of the bucket unless its key is the name of a bound. A reply that has it
nested in a result without buckets is decoded, with the nested result kept, unless its key is the
name of a member of results. -/
theorem nested_result_found (name k : String) (key : Value) {ms rms nested : Members}
    {base : SearchResult} {parent accepted : AggregationResult} {before after : List Value}
    {count : Value} {n : Int} (decoded : decode (.data (.obj ms)) = .ok base)
    (read : AggregationResult.read (.obj (rms.put "buckets" (.list (before ++ after)))) =
      .ok parent)
    (counted : readInteger count = .ok n)
    (nests : AggregationResult.read (.obj nested) = .ok accepted)
    (free : k ∉ ["key", "key_as_string", "doc_count"]) :
    (∃ result a bs b, decode (.data (.obj (withResult ms name (.obj (rms.put "buckets"
          (.list (before ++ .obj (nestingBucket key count k nested) :: after))))))) = .ok result ∧
        result.aggregations.lookup name = some a ∧ a.buckets = some bs ∧
        bs[before.length]? = some b ∧
        ((∃ subs, b.subAggregations = .ok subs ∧ subs.lookup k = some accepted) ↔
          k ∉ ["from", "from_", "to"])) ∧
      ((∃ result a, decode (.data (.obj (withResult ms name
          (.obj (nestingResult count k nested))))) = .ok result ∧
        result.aggregations.lookup name = some a ∧ a.other.lookup k = some (.obj nested)) ↔
          k ∉ resultNames) := by
  constructor
  · obtain ⟨r, bucket⟩ := nestingBucket_read key nested counted free
    obtain ⟨a, bs, own, listed, there⟩ := read_more_buckets read bucket
    obtain ⟨result, _, whole, found, rfl⟩ :=
      (decode_withResult (P := fun x => x = a) decoded).mpr ⟨a, own, rfl⟩
    exact ⟨result, _, bs, .ofRecord r, whole, found, listed, there,
      nestingBucket_subAggregations free nests bucket⟩
  · rw [decode_withResult decoded]
    exact nestingResult_other counted fun same => free (by simp [same])

theorem prices_in_bucket_found : ∃ result a bs b, decode (.data (.obj (withResult
      [("took", .int 1), ("hits", .obj [])] "colors" (.obj [("buckets", .list
        [.obj (nestingBucket (.str "red") (.int 2) "prices" [("value", .int 3)])])])))) =
        .ok result ∧
    result.aggregations.lookup "colors" = some a ∧ a.buckets = some bs ∧ bs[0]? = some b ∧
    ∃ subs, b.subAggregations = .ok subs ∧ (subs.lookup "prices").isSome := by
  have decoded : decode (.data (.obj [("took", .int 1), ("hits", .obj [])])) = .ok _ := rfl
  have parent : AggregationResult.read (.obj (Members.put [] "buckets" (.list ([] ++ [])))) =
    .ok _ := rfl
  have nests : AggregationResult.read (.obj [("value", .int 3)]) = .ok _ := rfl
  have counted : readInteger (.int 2) = .ok 2 := rfl
  obtain ⟨⟨result, a, bs, b, whole, found, listed, there, kept⟩, -⟩ :=
    nested_result_found "colors" "prices" (.str "red") decoded parent counted nests (by decide)
  obtain ⟨subs, read, own⟩ := kept.mpr (by decide)
  exact ⟨result, a, bs, b, whole, found, listed, there, subs, read, by rw [own]; rfl⟩

/-- The result of an aggregation with the key `min` is taken for the metric of the result that it is
nested in. -/
theorem min_result_rejected :
    (∃ a, AggregationResult.read (.obj [("value", .int 3)]) = .ok a) ∧
      decode (.data (.obj (withResult [("took", .int 1), ("hits", .obj [])] "lacking"
        (.obj (nestingResult (.int 2) "min" [("value", .int 3)]))))) =
      .error (.invalid [⟨[.name "aggregations", .name "lacking", .name "min"], .notDouble⟩]) :=
  ⟨⟨_, rfl⟩, rfl⟩

end PortableSearch.Reply
