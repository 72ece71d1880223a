import PortableSearch.Proofs.Reply.Decoded
import PortableSearch.Proofs.Shape.Congruence

/-! Two shapes of containers. The buckets of an aggregation come as an object of buckets by name or
as an array of buckets that carry their names, and the total of the hits comes as an object or as a
number. A reply is decoded alike in either shape, whichever of its containers come in which. -/
namespace PortableSearch.Reply
open Shape

/-- The item of an array in place of a bucket under a name: the name is the item's key, instead of
any key of the bucket's own, and the other members are those of the bucket, in their order. -/
inductive NamedItem (name : String) : Value → Value → Prop
  | intro {bucket item : Members} : item.lookup "key" = some (.str name) →
    item.without "key" = bucket.without "key" → NamedItem name (.obj bucket) (.obj item)

/-- An array in place of an object of buckets, with an item for each. -/
inductive BucketArray : Value → Value → Prop
  | intro {buckets : Members} {items : List Value} :
    List.Forall₂ (fun bucket item => NamedItem bucket.1 bucket.2 item) buckets items →
    BucketArray (.obj buckets) (.list items)

/-- What is in the member `value` of a total, itself no object, in place of the total. -/
inductive PlainTotal : Value → Value → Prop
  | intro {total : Members} {n : Value} : total.lookup "value" = some n →
    n.members? = none → PlainTotal (.obj total) n

/-- Objects with the same names in the same order, in which any set of members is replaced. -/
inductive Reshaped (replaced : String → Value → Value → Prop) : Value → Value → Prop
  | intro {ms ms' : Members} :
    List.Forall₂ (fun m m' => m.1 = m'.1 ∧ (m.2 = m'.2 ∨ replaced m.1 m.2 m'.2)) ms ms' →
    Reshaped replaced (.obj ms) (.obj ms')

/-- The result of an aggregation with its buckets in an array. -/
def ResultReshaped : Value → Value → Prop :=
  Reshaped fun name v v' => name = "buckets" ∧ BucketArray v v'

/-- The container of the hits with its total as a number. -/
def HitsReshaped : Value → Value → Prop :=
  Reshaped fun name v v' => name = "total" ∧ PlainTotal v v'

/-- A reply with any of its containers in the other shape. -/
def ReplyReshaped : Value → Value → Prop :=
  Reshaped fun name v v' => name = "hits" ∧ HitsReshaped v v' ∨
    name = "aggregations" ∧ Reshaped (fun _ => ResultReshaped) v v'

section
variable {v v' : Value}

/-- A record is read alike where each replacement is one that its kind reads alike. -/
theorem Reshaped.read_record {type : RecordType FieldType}
    {replaced : String → Value → Value → Prop} (reshaped : Reshaped replaced v v')
    (alike : ∀ name v v', replaced name v v' → type.ReadsAlike name v v') :
    (FieldType.record type).read .data v = (FieldType.record type).read .data v' := by
  obtain ⟨each⟩ := reshaped
  refine read_record_of_alike (each.imp ?_)
  rintro m m' ⟨name, same | other⟩
  · exact ⟨name, .inl same⟩
  · exact ⟨name, alike _ _ _ other⟩

theorem NamedItem.read {name : String} {bucket item : Value} (named : NamedItem name bucket item) :
    (FieldType.record bucketType).read .data (withKey name bucket) =
      (FieldType.record bucketType).read .data item := by
  obtain ⟨key, rest⟩ := named
  refine read_record_of_moved (n := "key") ⟨_, List.mem_cons_self, rfl⟩
    (Members.lookup_put_self _ _ _) key ?_
  rw [Members.without_put, rest]

theorem BucketArray.read (array : BucketArray v v') :
    bucketsType.read .data v = bucketsType.read .data v' := by
  obtain ⟨each⟩ := array
  have items := each.imp fun _ _ named => named.read
  rw [read_buckets_obj, read_buckets_list]
  exact read_list_congr (List.forall₂_map_left_iff.mpr items)

theorem PlainTotal.read (plain : PlainTotal v v') :
    (FieldType.prepared .count .integer).read .data v =
      (FieldType.prepared .count .integer).read .data v' := by
  obtain @⟨total, _, value, number⟩ := plain
  have taken : Preparation.count.apply (.obj total) = .ok v' := by
    rw [Preparation.apply, value, Option.getD_some]
  have kept : Preparation.count.apply v' = .ok v' := by
    cases v' with
    | obj ms => cases number
    | _ => rfl
  simp only [FieldType.read, Source.settle, taken, kept]

theorem ResultReshaped.read (reshaped : ResultReshaped v v') :
    (FieldType.record aggregationType).read .data v =
      (FieldType.record aggregationType).read .data v' := by
  refine reshaped.read_record ?_
  rintro _ v v' ⟨rfl, array⟩
  exact .of_field bucketsField_mem bucketsField_only array.read

theorem HitsReshaped.read (reshaped : HitsReshaped v v') :
    (FieldType.record hitsType).read .data v = (FieldType.record hitsType).read .data v' := by
  refine reshaped.read_record ?_
  rintro _ v v' ⟨rfl, plain⟩
  exact .of_field (f := .preset "total" _ _) List.mem_cons_self
    (by simp [hitsType, FieldSpec.optional, FieldSpec.preset]) plain.read

theorem read_aggregations (reshaped : Reshaped (fun _ => ResultReshaped) v v') :
    (FieldType.dict (.record aggregationType)).read .data v =
      (FieldType.dict (.record aggregationType)).read .data v' := by
  obtain ⟨each⟩ := reshaped
  refine read_dict_congr (each.imp ?_)
  rintro m m' ⟨name, same | result⟩
  · exact ⟨name, by rw [same]⟩
  · exact ⟨name, result.read⟩

theorem ReplyReshaped.check (reshaped : ReplyReshaped v v') :
    check .data v = check .data v' := by
  have alike : (FieldType.record resultType).read .data v =
      (FieldType.record resultType).read .data v' := reshaped.read_record ?_
  · rw [Reply.check, Reply.check, alike]
  rintro _ v v' (⟨rfl, hits⟩ | ⟨rfl, aggregations⟩)
  · exact .of_field hitsField_mem hitsField_only hits.read
  · exact .of_field aggregationsField_mem aggregationsField_only (read_aggregations aggregations)

end

/-- A reply in either shape has the same record, with the same fields given, or the same faults. -/
theorem decode_reshaped {ms ms' : Members} (reshaped : ReplyReshaped (.obj ms) (.obj ms')) :
    checkRaw (.data (.obj ms)) = checkRaw (.data (.obj ms')) ∧
      decode (.data (.obj ms)) = decode (.data (.obj ms')) := by
  have same : checkRaw (.data (.obj ms)) = checkRaw (.data (.obj ms')) := reshaped.check
  exact ⟨same, by rw [decode, decode, same]⟩

/-- A bucket with a key of its own is known by its name. -/
theorem keyed_bucket_decode_reshaped :
    decode (.data (.obj [("took", .int 1), ("hits", .obj [("total", .obj
        [("value", .int 2), ("relation", .str "eq")])]), ("aggregations", .obj [("prices", .obj
          [("buckets", .obj [("low", .obj [("key", .int 0), ("doc_count", .int 2),
            ("to", .int 10)])])])])])) =
      decode (.data (.obj [("took", .int 1), ("hits", .obj [("total", .int 2)]),
        ("aggregations", .obj [("prices", .obj [("buckets", .list
          [.obj [("doc_count", .int 2), ("to", .int 10), ("key", .str "low")]])])])])) := by
  have item : NamedItem "low" (.obj [("key", .int 0), ("doc_count", .int 2), ("to", .int 10)])
      (.obj [("doc_count", .int 2), ("to", .int 10), ("key", .str "low")]) :=
    .intro (by simp [List.lookup_cons]) (by simp [Members.without])
  have array : BucketArray (.obj [("low", _)]) (.list [_]) := .intro (.cons item .nil)
  have total : PlainTotal (.obj [("value", .int 2), ("relation", .str "eq")]) (.int 2) :=
    .intro rfl rfl
  refine (decode_reshaped ?_).2
  constructor
  refine .cons ⟨rfl, .inl rfl⟩ (.cons ⟨rfl, .inr (.inl ⟨rfl, ?hits⟩)⟩
    (.cons ⟨rfl, .inr (.inr ⟨rfl, ?aggregations⟩)⟩ .nil))
  case hits =>
    constructor
    exact .cons ⟨rfl, .inr ⟨rfl, total⟩⟩ .nil
  case aggregations =>
    constructor
    refine .cons ⟨rfl, .inr ?result⟩ .nil
    constructor
    exact .cons ⟨rfl, .inr ⟨rfl, array⟩⟩ .nil

end PortableSearch.Reply
