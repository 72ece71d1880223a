import PortableSearch.Proofs.Reply.Decoded
import PortableSearch.Proofs.Request.Places
import PortableSearch.Proofs.Shape.Merged

/-! All faults of a reply are told. A reply is refused with one fault for each member that is missing
or has a value that its type does not accept, in the order in which the fields are declared and the
items and members stand. A fault is addressed by the names that the members have in the reply; the
buckets of an object are counted like those of a list. -/
namespace PortableSearch.Reply
open Shape

/-- The faults that a reply is refused with. -/
def faultsIn (ms : Members) : List Fault :=
  match decode (.data (.obj ms)) with
  | .error (.invalid faults) => faults
  | _ => []

variable {ms : Members}

theorem faultsIn_eq (ms : Members) :
    faultsIn ms = ((FieldType.record resultType).read .data (.obj ms)).faults := by
  rw [faultsIn, decode, checkRaw, check]
  cases (FieldType.record resultType).read .data (.obj ms) <;> rfl

theorem told_faultsIn (ms : Members) :
    Told (Offends (.record resultType) (.obj ms)) (faultsIn ms) := by
  rw [faultsIn_eq]
  exact (read_tells _ _).1

theorem decode_error_iff {fault : Malformed} : decode (.data (.obj ms)) = .error fault ↔
    faultsIn ms ≠ [] ∧ fault = .invalid (faultsIn ms) := by
  have told := (read_tells (.record resultType) (.obj ms)).2
  rw [faultsIn_eq, decode, checkRaw, check]
  cases read : (FieldType.record resultType).read .data (.obj ms) with
  | ok r => simp [Except.mapError, Except.map, Checked.faults]
  | error fs =>
    have some : fs ≠ [] := told fs read
    simp [Except.mapError, Except.map, Checked.faults, some, eq_comm]

theorem foundIn_eq_none {f : FieldSpec FieldType} :
    f.foundIn ms = none ↔ f.outerName ∉ ms.names ∧ f.name ∉ ms.names := by
  rw [FieldSpec.foundIn, Option.or_eq_none_iff, Option.map_eq_none_iff, Option.map_eq_none_iff,
    Members.mem_names_iff, Members.mem_names_iff, Option.not_isSome_iff_eq_none,
    Option.not_isSome_iff_eq_none]

/-- The fields of a reply that have to be given. -/
theorem needed_names : ∀ f ∈ resultType.fields, f.fallback = none →
    f.outerName = f.name ∧ (f.name = "took" ∨ f.name = "hits") := by decide

/-- Something is wrong with a reply just where it lacks one of two members or the value of a member
is not accepted. -/
theorem offends_reply_iff : (∃ place fault, Offends (.record resultType) (.obj ms) place fault) ↔
    "took" ∉ ms.names ∨ "hits" ∉ ms.names ∨ ∃ f ∈ resultType.fields, ∃ name v,
      f.foundIn ms = some (name, v) ∧ ∃ place fault, Offends f.type v place fault := by
  constructor
  · rintro ⟨place, fault, offends⟩
    obtain ⟨i, p, -, f, there, own⟩ := offends_record.mp offends
    have inside : f ∈ resultType.fields := List.mem_of_getElem? there
    rw [FieldSpec.OffendsIn] at own
    split at own
    next name v found =>
      obtain ⟨g, wrong, -⟩ := own
      exact .inr (.inr ⟨f, inside, name, v, found, p, g, wrong⟩)
    next absent =>
      have missing := (foundIn_eq_none.mp absent).2
      rcases (needed_names f inside own.1).2 with took | hits
      · exact .inl (took ▸ missing)
      · exact .inr (.inl (hits ▸ missing))
  · rintro (took | hits | ⟨f, inside, name, v, found, p, g, wrong⟩)
    · exact ⟨_, _, .missing (i := 0) rfl (foundIn_eq_none.mpr ⟨took, took⟩) rfl⟩
    · exact ⟨_, _, .missing (i := 4) rfl (foundIn_eq_none.mpr ⟨hits, hits⟩) rfl⟩
    · obtain ⟨i, there⟩ := List.mem_iff_getElem?.mp inside
      exact ⟨_, _, .field there found wrong⟩

/-- A reply is refused just where it lacks one of two members or the value of a member is not
accepted, and then with all of its faults: one for each place where something is wrong, in the order
of the places. Faults of independent parts do not hide each other: a reply that is changed in two
ways has the faults of both. -/
theorem decode_all_faults :
    (∀ ms : Members,
      Told (Offends (.record resultType) (.obj ms)) (faultsIn ms) ∧
      (∀ fault, decode (.data (.obj ms)) = .error fault ↔
        faultsIn ms ≠ [] ∧ fault = .invalid (faultsIn ms)) ∧
      ((∃ fault, decode (.data (.obj ms)) = .error fault) ↔
        "took" ∉ ms.names ∨ "hits" ∉ ms.names ∨ ∃ f ∈ resultType.fields, ∃ name v,
          f.foundIn ms = some (name, v) ∧ ∃ place fault, Offends f.type v place fault)) ∧
    ∀ replies : Versions Members, Merged (.record resultType) (replies.map .obj) →
      (∃ result, decode (.data (.obj replies.base)) = .ok result) →
      ∀ fault, fault ∈ faultsIn replies.both ↔
        fault ∈ faultsIn replies.first ∨ fault ∈ faultsIn replies.second := by
  refine ⟨fun ms => ⟨told_faultsIn ms, fun fault => decode_error_iff, ?_⟩, ?_⟩
  · have some : faultsIn ms ≠ [] ↔ ∃ fault, fault ∈ faultsIn ms :=
      ⟨List.exists_mem_of_ne_nil _, fun ⟨_, inside⟩ => List.ne_nil_of_mem inside⟩
    simp only [decode_error_iff, exists_and_left, exists_eq, and_true, some,
      (told_faultsIn ms).mem_iff]
    rw [exists_comm]
    exact offends_reply_iff
  · rintro replies merged ⟨result, decoded⟩ fault
    have right : ∀ place fault,
        ¬ Offends (.record resultType) (.obj replies.base) place fault := by
      intro place fault wrong
      have inside : fault ∈ faultsIn replies.base :=
        ((told_faultsIn replies.base).mem_iff fault).mpr ⟨place, wrong⟩
      rw [faultsIn, decoded] at inside
      cases inside
    rw [(told_faultsIn _).mem_iff, (told_faultsIn _).mem_iff, (told_faultsIn _).mem_iff,
      ← exists_or]
    exact exists_congr fun place => merged.offends right place fault

/-- One change spoils the total of the hits and another one the source of a hit. -/
theorem two_faults_told :
    let hits (total source : Value) : Members := [("total", total), ("hits", .list
      [.obj [("_id", .str "a")], .obj [("_id", .str "b"), ("_source", source)]])]
    let reply (total source : Value) : Members :=
      [("took", .int 1), ("hits", .obj (hits total source))]
    let spoilt := reply (.str "x") (.int 5)
    Merged (.record resultType) (Versions.map .obj ⟨reply (.int 1) (.obj []),
      reply (.str "x") (.obj []), reply (.int 1) (.int 5), spoilt⟩) ∧
    (∃ result, decode (.data (.obj (reply (.int 1) (.obj [])))) = .ok result) ∧
    ⟨[.name "hits", .name "total"], .unreadableInteger⟩ ∈ faultsIn spoilt ∧
    ⟨[.name "hits", .name "hits", .index 1, .name "_source"], .notObject⟩ ∈ faultsIn spoilt := by
  intro hits reply spoilt
  have container : Merged (.record hitsType) (Versions.map .obj ⟨hits (.int 1) (.obj []),
      hits (.str "x") (.obj []), hits (.int 1) (.int 5), hits (.str "x") (.int 5)⟩) := by
    refine .of_fields fun f inside => .inl ?_
    simp only [hitsType, List.mem_cons, List.not_mem_nil, or_false] at inside
    rcases inside with rfl | rfl | rfl
    · exact .inr ⟨rfl, rfl⟩
    · exact .inl ⟨rfl, rfl⟩
    · exact .inl ⟨rfl, rfl⟩
  have merged : Merged (.record resultType) (Versions.map .obj ⟨reply (.int 1) (.obj []),
      reply (.str "x") (.obj []), reply (.int 1) (.int 5), spoilt⟩) := by
    refine .of_fields fun f inside => ?_
    simp only [resultType, List.mem_cons, List.not_mem_nil, or_false] at inside
    rcases inside with rfl | rfl | rfl | rfl | rfl | rfl
    case inr.inr.inr.inr.inl => exact .inr ⟨"hits", _, rfl, container⟩
    all_goals exact .inl (.inl ⟨rfl, rfl⟩)
  have decoded : ∃ result, decode (.data (.obj (reply (.int 1) (.obj [])))) = .ok result :=
    ⟨_, rfl⟩
  have union := decode_all_faults.2 _ merged decoded
  refine ⟨merged, decoded, (union _).mpr (.inl ?_), (union _).mpr (.inr ?_)⟩
  · exact List.mem_cons_self
  · exact List.mem_cons_self

/-- A member that is given under the name of its field is addressed by that, and a bucket of an
object by its position, where the reply has nothing. -/
theorem paths_without_wire_names :
    (faultsIn [("took", .int 1), ("hits", .obj []), ("shards", .int 5)] =
        [⟨[.name "shards"], .notRecord⟩] ∧
      ∀ f ∈ resultType.fields, f.outerName ≠ "shards") ∧
    let reply : Members := [("took", .int 1), ("hits", .obj []), ("aggregations", .obj
      [("prices", .obj [("buckets", .obj [("low", .obj [("doc_count", .str "x")])])])])]
    let path : List Step := [.name "aggregations", .name "prices", .name "buckets", .index 0,
      .name "doc_count"]
    faultsIn reply = [⟨path, .unreadableInteger⟩] ∧ ∀ v, ¬ (Value.obj reply).At path v := by
  refine ⟨⟨rfl, by decide⟩, ?_⟩
  intro reply path
  refine ⟨rfl, fun v found => ?_⟩
  have only {n name : String} {u w : Value} {path : List Step}
      (found : (Value.obj [(name, u)]).At (.name n :: path) w) : u.At path w := by
    cases found with
    | member inside rest =>
      cases List.mem_singleton.mp inside
      exact rest
  have found : (Value.obj reply).At (.name "aggregations" :: path.tail) v := found
  cases found with
  | member inside rest =>
    simp only [reply, List.mem_cons, Prod.mk.injEq, String.reduceEq, false_and, false_or,
      true_and, List.not_mem_nil, or_false] at inside
    subst inside
    cases only (only rest)

end PortableSearch.Reply
