import PortableSearch.Proofs.Nulls
import PortableSearch.Proofs.Reply.Decoded

/-! What decoded replies answer when they are looked into. Members that are not modelled are kept
as they came and read only where they are asked for, so that decoding a reply does not settle
whether they can be read. Which of them have to have a shape is listed here, at every depth. -/
namespace PortableSearch.Reply
open Shape

variable {a : AggregationResult} {b : Bucket} {v : Value}

/-! Rectangles and points -/

/-- A value that is read as a number. -/
def IsDegree (v : Value) : Prop := ∃ x, readDouble .data v = .ok x

/-- An object with a longitude and a latitude. -/
def IsPoint (v : Value) : Prop :=
  ∃ ms : Members, v = .obj ms ∧ IsDegree (ms.get "lon") ∧ IsDegree (ms.get "lat")

/-- A rectangle has two corners and a location is a point; a location beside a rectangle is not
looked at. -/
structure AggregationResult.IsComplete (a : AggregationResult) : Prop where
  bounds : ∀ bounds : Members, a.other.get "bounds" = .obj bounds →
    IsPoint (bounds.get "top_left") ∧ IsPoint (bounds.get "bottom_right")
  location : ∀ location, (∀ bounds, a.other.get "bounds" ≠ .obj bounds) →
    a.other.get "location" = .obj location → IsPoint (.obj location)

theorem null_not_degree : ¬ IsDegree .null := by
  rintro ⟨x, read⟩
  cases read

theorem readFields_readable {source : Source} {fields : List (FieldSpec FieldType)}
    {ms : Members} : (∃ out, readFields source fields ms = .ok out) ↔
      ∀ f ∈ fields, ∃ w, f.ReadsAs source ms w := by
  simp only [readFields_ok]
  rw [exists_forall₂]
  exact forall₂_congr fun f _ => exists_named

/-- Required numbers are read where each of them is there and is a number. -/
theorem readDoubles_readable (names : List String) (ms : Members) :
    (∃ out, readFields .data (names.map fun n => .required n .double) ms = .ok out) ↔
      ∀ n ∈ names, IsDegree (ms.get n) := by
  have single (n : String) :
      (∃ w, (FieldSpec.required n FieldType.double).ReadsAs .data ms w) ↔ IsDegree (ms.get n) := by
    simp only [FieldSpec.ReadsAs, FieldSpec.valueIn, FieldSpec.required, Option.or_self,
      Members.get]
    cases ms.lookup n with
    | none => simpa using null_not_degree
    | some v =>
      simp only [Option.getD_some, IsDegree, FieldType.read]
      cases readDouble .data v <;> simp [Checked.ofExcept, Except.map]
  rw [readFields_readable, List.forall_mem_map]
  exact forall₂_congr fun n _ => single n

theorem corner_ok {bounds ms : Members} {name : String} (found : corner bounds name = .ok ms)
    (lon : IsDegree (ms.get "lon")) : bounds.get name = .obj ms := by
  rw [corner] at found
  split at found
  · cases found
    exact absurd lon null_not_degree
  · split at found
    · cases found
      assumption
    · cases found

theorem corner_obj {bounds ms : Members} {name : String} (found : bounds.get name = .obj ms) :
    corner bounds name = .ok ms := by
  rw [corner, found]
  cases ms <;> rfl

theorem boundsOf_ok (bounds : Members) : (∃ e, boundsOf bounds = .ok e) ↔
    IsPoint (bounds.get "top_left") ∧ IsPoint (bounds.get "bottom_right") := by
  have numbers (topLeft bottomRight : Members) := readDoubles_readable
    ["min_x", "max_x", "min_y", "max_y"]
    [("min_x", topLeft.get "lon"), ("max_x", bottomRight.get "lon"),
      ("min_y", bottomRight.get "lat"), ("max_y", topLeft.get "lat")]
  simp only [List.forall_mem_cons, List.not_mem_nil, false_imp_iff, implies_true, and_true,
    Members.get_cons, String.reduceEq, if_true, if_false] at numbers
  constructor
  · rintro ⟨e, found⟩
    obtain ⟨topLeft, first, rest⟩ := bind_ok.mp found
    obtain ⟨bottomRight, second, read⟩ := bind_ok.mp rest
    obtain ⟨out, read, -⟩ := map_ok.mp read
    obtain ⟨minX, maxX, minY, maxY⟩ := (numbers topLeft bottomRight).mp ⟨out, mapError_ok.mp read⟩
    exact ⟨⟨topLeft, corner_ok first minX, minX, maxY⟩,
      ⟨bottomRight, corner_ok second maxX, maxX, minY⟩⟩
  · rintro ⟨⟨topLeft, first, minX, maxY⟩, ⟨bottomRight, second, maxX, minY⟩⟩
    obtain ⟨out, read⟩ := (numbers topLeft bottomRight).mpr ⟨minX, maxX, minY, maxY⟩
    exact ⟨.ofFields out, bind_ok.mpr ⟨topLeft, corner_obj first, bind_ok.mpr
      ⟨bottomRight, corner_obj second, map_ok.mpr ⟨out, mapError_ok.mpr read, rfl⟩⟩⟩⟩

theorem locationOf_ok (location : Members) :
    (∃ c, locationOf location = .ok c) ↔ IsPoint (.obj location) := by
  have numbers := readDoubles_readable ["lon", "lat"]
    [("lon", location.get "lon"), ("lat", location.get "lat")]
  simp only [List.forall_mem_cons, List.not_mem_nil, false_imp_iff, implies_true, and_true,
    Members.get_cons, String.reduceEq, if_true, if_false] at numbers
  constructor
  · rintro ⟨c, found⟩
    obtain ⟨out, read, -⟩ := map_ok.mp found
    exact ⟨location, rfl, numbers.mp ⟨out, mapError_ok.mp read⟩⟩
  · rintro ⟨_, ⟨⟩, point⟩
    obtain ⟨out, read⟩ := numbers.mpr point
    exact ⟨.ofFields out, map_ok.mpr ⟨out, mapError_ok.mpr read, rfl⟩⟩

theorem value_ok (a : AggregationResult) : (∃ m, a.value = .ok m) ↔ a.IsComplete := by
  have mapped {α : Type} (x : Except MetricFault α) (f : α → Metric) :
      (∃ m, x.map f = .ok m) ↔ ∃ c, x = .ok c := by
    cases x <;> simp [Except.map]
  have plain (noBounds : ∀ bounds, a.other.get "bounds" ≠ .obj bounds)
      (noLocation : ∀ location, a.other.get "location" ≠ .obj location) (v : Value) :
      (∃ m, (.ok (.plain v) : Except MetricFault Metric) = .ok m) ↔ a.IsComplete :=
    ⟨fun _ => ⟨fun bounds same => absurd same (noBounds bounds),
      fun location _ same => absurd same (noLocation location)⟩, fun _ => ⟨_, rfl⟩⟩
  rw [AggregationResult.value]
  split
  next bounds rectangle =>
    rw [mapped, boundsOf_ok]
    constructor
    · intro corners
      constructor
      · intro bounds' same
        cases rectangle.symm.trans same
        exact corners
      · intro _ never
        exact absurd rectangle (never bounds)
    · intro complete
      exact complete.bounds bounds rectangle
  next location place never =>
    rw [mapped, locationOf_ok]
    constructor
    · intro point
      constructor
      · intro bounds rectangle
        exact absurd rectangle (never bounds)
      · intro location' _ same
        cases place.symm.trans same
        exact point
    · intro complete
      exact complete.location location never place
  next found noBounds noLocation => exact plain noBounds noLocation _
  next absent noBounds noLocation => exact plain noBounds noLocation _

/-! Statistics -/

/-- The members that statistics are put together from. -/
def Stats.members (s : Stats) : Members :=
  [("count", Value.ofOption .int s.count), ("min", Value.ofOption .float s.min),
    ("max", Value.ofOption .float s.max), ("avg", Value.ofOption .float s.avg),
    ("sum", Value.ofOption .float s.sum)]

/-- Whatever a result says, its statistics are accepted. -/
theorem stats_readable (s : Stats) :
    ∃ out, readRecordFields .data statsType s.members = .ok out := by
  have integer (n : Option Int) :
      ∃ w, (FieldType.nullable .integer).read .data (Value.ofOption .int n) = .ok w := by
    cases n <;> exact ⟨_, rfl⟩
  have double (x : Option Float) :
      ∃ w, (FieldType.nullable .double).read .data (Value.ofOption .float x) = .ok w := by
    cases x <;> exact ⟨_, rfl⟩
  rw [statsType, readRecordFields, readFields_readable]
  simp only [metricNames, List.map_cons, List.map_nil, List.forall_mem_cons]
  exact ⟨integer s.count, double s.min, double s.max, double s.avg, double s.sum,
    List.forall_mem_nil _⟩

/-! Nested results -/

theorem subAggregations_ok (b : Bucket) : (∃ subs, b.subAggregations = .ok subs) ↔
    ∀ m ∈ objectMembers b.other, ∃ nested, AggregationResult.read m.2 = .ok nested := by
  simp only [Bucket.subAggregations, mapM_ok_iff]
  rw [exists_forall₂]
  refine forall₂_congr fun m _ => ?_
  cases AggregationResult.read m.2 <;> simp [Except.map]

/-- The nested results of a bucket are what its object members are read as. -/
theorem mem_subAggregations {subs : List (String × AggregationResult)}
    (answered : b.subAggregations = .ok subs) {nested : AggregationResult} :
    (∃ name, (name, nested) ∈ subs) ↔
      ∃ m ∈ objectMembers b.other, AggregationResult.read m.2 = .ok nested := by
  constructor
  · rintro ⟨name, inside⟩
    obtain ⟨m, there, read⟩ := mapM_ok_of_mem answered inside
    obtain ⟨_, read, same⟩ := map_ok.mp read
    cases same
    exact ⟨m, there, read⟩
  · rintro ⟨m, there, read⟩
    obtain ⟨sub, inside, own⟩ := mapM_ok_mem answered there
    rw [read] at own
    cases own
    exact ⟨m.1, inside⟩

/-! Every depth -/

/-- A part of a decoded reply that can be looked into. -/
inductive Part where
  | result (a : AggregationResult)
  | bucket (b : Bucket)

/-- A part is found by looking into another, any number of times: into the buckets of a result and
into the nested results of a bucket. -/
inductive Part.Within : Part → Part → Prop
  | self {p : Part} : Within p p
  | bucket {a : AggregationResult} {bs : List Bucket} {b : Bucket} {p : Part} :
    a.buckets = some bs → b ∈ bs → Within (.bucket b) p → Within (.result a) p
  | nested {b : Bucket} {subs : List (String × AggregationResult)} {name : String}
      {a : AggregationResult} {p : Part} :
    b.subAggregations = .ok subs → (name, a) ∈ subs → Within (.result a) p →
    Within (.bucket b) p

/-- Whatever a part is asked for, it answers. -/
inductive Part.Answers : Part → Prop
  | result {a : AggregationResult} {m : Metric} :
    a.value = .ok m →
    (∀ s, a.stats = some s → ∃ out, readRecordFields .data statsType s.members = .ok out) →
    Answers (.result a)
  | bucket {b : Bucket} {subs : List (String × AggregationResult)} :
    b.subAggregations = .ok subs → Answers (.bucket b)

/-- A result is complete, and so are the nested results in its buckets: what is an object there can
be read as the result of an aggregation and is of this shape again. -/
inductive AggregationResult.HasShape : AggregationResult → Prop
  | intro {a : AggregationResult} :
    a.IsComplete →
    (∀ bs, a.buckets = some bs → ∀ b ∈ bs, ∀ m ∈ objectMembers b.other,
      ∃ nested, AggregationResult.read m.2 = .ok nested) →
    (∀ bs, a.buckets = some bs → ∀ b ∈ bs, ∀ m ∈ objectMembers b.other,
      ∀ nested, AggregationResult.read m.2 = .ok nested → HasShape nested) →
    HasShape a

theorem answers_result (a : AggregationResult) : (Part.result a).Answers ↔ a.IsComplete := by
  rw [← value_ok]
  constructor
  · rintro ⟨value, -⟩
    exact ⟨_, value⟩
  · rintro ⟨m, value⟩
    exact .result value fun s _ => stats_readable s

theorem answers_bucket (b : Bucket) : (Part.bucket b).Answers ↔
    ∀ m ∈ objectMembers b.other, ∃ nested, AggregationResult.read m.2 = .ok nested := by
  rw [← subAggregations_ok]
  constructor
  · intro answers
    cases answers with
    | bucket answered => exact ⟨_, answered⟩
  · rintro ⟨subs, answered⟩
    exact .bucket answered

/-- By induction on the shape, which follows the depth of the result. -/
theorem AggregationResult.HasShape.answers (shape : a.HasShape) :
    ∀ p, Part.Within (.result a) p → p.Answers := by
  induction shape with
  | @intro a complete readable _ ih =>
    intro p within
    cases within with
    | self => exact (answers_result a).mpr complete
    | @bucket _ bs b _ buckets inside within =>
      cases within with
      | self => exact (answers_bucket b).mpr (readable bs buckets b inside)
      | nested answered there within =>
        obtain ⟨m, object, read⟩ := (mem_subAggregations answered).mp ⟨_, there⟩
        exact ih bs buckets b inside m object _ read p within

/-! What is nested in a value is smaller than the value -/

theorem sizeOf_member {ms : Members} {m : String × Value} (inside : m ∈ ms) :
    sizeOf m.2 < sizeOf (Value.obj ms) := by
  have smaller := List.sizeOf_lt_of_mem inside
  obtain ⟨name, v⟩ := m
  simp only [Prod.mk.sizeOf_spec, Value.obj.sizeOf_spec] at smaller ⊢
  omega

theorem sizeOf_valueIn {f : FieldSpec FieldType} {ms : Members} (found : f.valueIn ms = some v) :
    sizeOf v < sizeOf (Value.obj ms) := by
  rw [FieldSpec.valueIn, Option.or_eq_some_iff] at found
  rcases found with outer | ⟨-, own⟩
  · exact sizeOf_member (Members.mem_of_lookup outer)
  · exact sizeOf_member (Members.mem_of_lookup own)

/-- The other members of a bucket are members of what it is read from; its key is not among them. -/
theorem bucket_others {r : Value} {ms : Members} {m : String × Value}
    (read : (FieldType.record bucketType).read .data (.obj ms) = .ok r) (inside : m ∈ r.others) :
    m ∈ ms ∧ m.1 ≠ "key" := by
  rw [record_others rfl read, unusedMembers_eq, List.mem_filter, decide_eq_true_eq] at inside
  obtain ⟨there, left⟩ := inside
  refine ⟨there, ?_⟩
  intro key
  rw [key] at left
  exact not_leftOver List.mem_cons_self left

theorem bucket_smaller {r : Value} {m : String × Value}
    (read : (FieldType.record bucketType).read .data v = .ok r) (inside : m ∈ r.others) :
    sizeOf m.2 < sizeOf v := by
  cases v with
  | obj ms => exact sizeOf_member (bucket_others read inside).1
  | record kinds given fields others =>
    rw [FieldType.read] at read
    split at read
    · cases read
      have smaller := List.sizeOf_lt_of_mem (show m ∈ others from inside)
      obtain ⟨name, v⟩ := m
      simp only [Prod.mk.sizeOf_spec, Value.record.sizeOf_spec] at smaller ⊢
      omega
    · cases read
  | _ => cases read

/-- A bucket that has its key from the name of a member holds nothing else from there. -/
theorem keyed_bucket_smaller {name : String} {r : Value} {m : String × Value}
    (read : (FieldType.record bucketType).read .data (withKey name v) = .ok r)
    (inside : m ∈ r.others) : sizeOf m.2 < sizeOf v := by
  cases v with
  | obj ms =>
    obtain ⟨there, other⟩ := bucket_others read inside
    rcases Members.mem_of_mem_put there with member | rfl
    · exact sizeOf_member member
    · exact absurd rfl other
  | _ => exact bucket_smaller read inside

theorem buckets_smaller {w : Value} (read : bucketsType.read .data v = .ok w) {r : Value}
    (bucket : r ∈ w.items) {m : String × Value} (inside : m ∈ r.others) :
    sizeOf m.2 < sizeOf v := by
  cases read_buckets_iff.mp read with
  | null => cases bucket
  | array each =>
    obtain ⟨u, there, own⟩ := forall₂_mem_right each bucket
    have smaller := List.sizeOf_lt_of_mem there
    have nested := bucket_smaller own inside
    simp only [Value.list.sizeOf_spec]
    omega
  | keyed each =>
    obtain ⟨named, member, own⟩ := forall₂_mem_right each bucket
    exact Nat.lt_trans (keyed_bucket_smaller own inside) (sizeOf_member member)

/-- What a bucket of a result nests is smaller than what the result is read from. -/
theorem nested_smaller {ms : Members} (read : AggregationResult.read (.obj ms) = .ok a)
    {bs : List Bucket} (buckets : a.buckets = some bs) (there : b ∈ bs) {m : String × Value}
    (inside : m ∈ b.other) : sizeOf m.2 < sizeOf (Value.obj ms) := by
  obtain ⟨r, whole, rfl⟩ := map_ok.mp read
  obtain ⟨w, present, rfl⟩ := Option.map_eq_some_iff.mp buckets
  obtain ⟨same, filled⟩ := Value.present?_eq_some.mp present
  obtain ⟨u, bucket, rfl⟩ := List.mem_map.mp there
  have own : bucketsField.ReadsAs .data ms w := by
    rw [← same]
    exact read_record_field (by decide) whole bucketsField_mem
  rw [FieldSpec.ReadsAs] at own
  split at own
  next v found =>
    exact Nat.lt_trans (buckets_smaller own bucket inside) (sizeOf_valueIn found)
  next =>
    cases own
    exact absurd rfl filled

/-- One step into the depth: a result of which every part answers has the shape, if the nested
results of which every part answers have it. -/
theorem AggregationResult.HasShape.of_answers (answers : ∀ p, Part.Within (.result a) p → p.Answers)
    (nested : ∀ bs, a.buckets = some bs → ∀ b ∈ bs, ∀ m ∈ objectMembers b.other,
      ∀ nested, AggregationResult.read m.2 = .ok nested →
        (∀ p, Part.Within (.result nested) p → p.Answers) → nested.HasShape) : a.HasShape := by
  have readable : ∀ bs, a.buckets = some bs → ∀ b ∈ bs, ∃ subs, b.subAggregations = .ok subs := by
    intro bs buckets b inside
    have answered := answers (.bucket b) (.bucket buckets inside .self)
    exact (subAggregations_ok b).mpr ((answers_bucket b).mp answered)
  constructor
  · exact (answers_result a).mp (answers (.result a) .self)
  · intro bs buckets b inside
    exact (subAggregations_ok b).mp (readable bs buckets b inside)
  · intro bs buckets b inside m object inner read
    obtain ⟨subs, answered⟩ := readable bs buckets b inside
    obtain ⟨name, there⟩ := (mem_subAggregations answered).mpr ⟨m, object, read⟩
    apply nested bs buckets b inside m object inner read
    intro p within
    exact answers p (.bucket buckets inside (.nested answered there within))

/-- By induction on the size of what the result is read from. -/
theorem AggregationResult.HasShape.of_read (object : v.members?.isSome)
    (read : AggregationResult.read v = .ok a)
    (answers : ∀ p, Part.Within (.result a) p → p.Answers) : a.HasShape := by
  induction size : sizeOf v using Nat.strongRecOn generalizing v a with
  | _ n ih =>
    subst size
    cases v with
    | obj ms =>
      apply AggregationResult.HasShape.of_answers answers
      intro bs buckets b inside m object nested own answers
      obtain ⟨there, object⟩ := List.mem_filter.mp object
      exact ih _ (nested_smaller read buckets inside there) object own answers rfl
    | _ => cases object

/-- Whatever a decoded reply holds at any depth answers, just where every result that it holds has
the shape. Statistics are never at fault. -/
theorem answers_throughout (result : SearchResult) :
    (∀ named ∈ result.aggregations, ∀ p, Part.Within (.result named.2) p → p.Answers) ↔
      ∀ named ∈ result.aggregations, named.2.HasShape := by
  refine forall₂_congr fun named _ => ?_
  constructor
  · intro answers
    apply AggregationResult.HasShape.of_answers answers
    intro bs buckets b inside m object nested read answers
    exact .of_read (List.mem_filter.mp object).2 read answers
  · exact AggregationResult.HasShape.answers

/-- A reply with one result. -/
def replyWith (v : Value) : Raw :=
  .data (.obj [("took", .int 1), ("hits", .obj []), ("aggregations", .obj [("area", v)])])

theorem nested_rectangle_answers :
    let point : Value := .obj [("lat", .float 52.5), ("lon", .float 13.4)]
    let rectangle : Value :=
      .obj [("bounds", .obj [("top_left", point), ("bottom_right", point)])]
    ∃ result, decode (replyWith (.obj [("buckets", .list
        [.obj [("key", .str "u33"), ("doc_count", .int 1), ("extent", rectangle)]])])) =
          .ok result ∧
      ∀ named ∈ result.aggregations, ∀ p, Part.Within (.result named.2) p → p.Answers := by
  intro point rectangle
  have corner : IsPoint point := ⟨_, rfl, ⟨_, rfl⟩, ⟨_, rfl⟩⟩
  have nested : ∀ a, AggregationResult.read rectangle = .ok a → a.HasShape := by
    intro a read
    cases read
    refine .intro ⟨?_, ?_⟩ nofun nofun
    · intro bounds same
      cases same
      exact ⟨corner, corner⟩
    · intro location never
      exact absurd rfl (never _)
  refine ⟨_, rfl, (answers_throughout _).mpr ?_⟩
  intro named inside
  cases List.mem_singleton.mp inside
  refine .intro ⟨nofun, nofun⟩ ?_ ?_
  · intro bs buckets b inside m object
    cases buckets
    cases List.mem_singleton.mp inside
    cases List.mem_singleton.mp object
    exact ⟨_, rfl⟩
  · intro bs buckets b inside m object
    cases buckets
    cases List.mem_singleton.mp inside
    cases List.mem_singleton.mp object
    exact nested

/-- A rectangle without corners, a corner that is no object, and a nested result that no reply could
have at the top: decoding accepts them all, and what is asked of them fails. -/
theorem accepted_and_unanswered :
    (∃ result a, decode (replyWith (.obj [("bounds", .obj [])])) = .ok result ∧
      result.aggregations = [("area", a)] ∧
      a.value = .error (.invalid (["min_x", "max_x", "min_y", "max_y"].map fun n =>
        ⟨[.name n], .notDouble⟩))) ∧
    (∃ result a, decode (replyWith (.obj [("bounds", .obj [("top_left", .int 5)])])) =
        .ok result ∧
      result.aggregations = [("area", a)] ∧ a.value = .error .notCorner) ∧
    (∃ result a b, decode (replyWith (.obj [("buckets", .list
        [.obj [("prices", .obj [("min", .str "cheap")])]])])) = .ok result ∧
      result.aggregations = [("area", a)] ∧ a.buckets = some [b] ∧
      b.subAggregations = .error [⟨[.name "min"], .unreadableDouble⟩]) :=
  ⟨⟨_, _, rfl, rfl, rfl⟩, ⟨_, _, rfl, rfl, rfl⟩, ⟨_, _, _, rfl, rfl, rfl, rfl⟩⟩

end PortableSearch.Reply
