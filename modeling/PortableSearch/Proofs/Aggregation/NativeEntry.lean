import PortableSearch.Proofs.Aggregation.Composition
import PortableSearch.Proofs.Aggregation.Nesting
import PortableSearch.Proofs.Aggregation.NativeText

/-! The entry of a native aggregation. A body that names nested aggregations in an object, or none,
takes the children among them and is otherwise left as it is. A body that has something else in
their place is never reported as a bad one. -/
namespace PortableSearch.Aggregation
open Members (withName)

/-! Bodies that take children -/

/-- The members of an entry that compiling may set. -/
def setMembers : List String := ["aggs", "min_doc_count"]

/-- The nested aggregations of an entry: those that the body names, each in its place, and then the
children of other keys. A child's entry counts before what the body has under its key, and of
several children with one key the last counts. -/
structure Overlays (setting : Setting) (own : Members) (children : List Aggregation)
    (ms : Members) : Prop where
  names : ms.names = own.names ++ (children.map key).eraseDups.filter (· ∉ own.names)
  own : ∀ name ∉ children.map key, ms.lookup name = own.lookup name
  child : ∀ before a after, children = before ++ a :: after → (∀ b ∈ after, b.key ≠ a.key) →
    ∃ e, compileAll setting [a] = .ok [(a.key, e)] ∧ ms.lookup a.key = some e

/-- What the entry of a native aggregation is beside the body that it was given. -/
structure Extends (setting : Setting) (body own : Members) (count : Option Int)
    (children : List Aggregation) (e : Members) : Prop where
  names : e.names =
    withName (withName body.names "aggs" !children.isEmpty) "min_doc_count" count.isSome
  others : e.filter (·.1 ∉ setMembers) = body.filter (·.1 ∉ setMembers)
  childless : children = [] → e.lookup "aggs" = body.lookup "aggs"
  nested : children ≠ [] →
    ∃ ms, e.lookup "aggs" = some (.obj ms) ∧ Overlays setting own children ms
  minDocCount : e.lookup "min_doc_count" = (count.map .int).or (body.lookup "min_doc_count")

variable {setting : Setting} {key : String} {value : Value} {count : Option Int}
  {children : List Aggregation} {body own nested : Members}

theorem overlays (compiled : compileAll setting children = .ok nested) (own : Members) :
    Overlays setting own children (own.update nested) := by
  have distinct : nested.names.Nodup := by
    obtain ⟨entries, -, rfl⟩ := compileAll_ok.mp compiled
    exact Members.nodup_ofList entries
  refine ⟨?_, ?_, ?_⟩
  · rw [Members.names_update_of_nodup own distinct, compileAll_names compiled]
  · intro name other
    have absent : name ∉ nested.names := by
      rwa [compileAll_names compiled, List.mem_eraseDups]
    exact Members.lookup_update_of_not_mem own absent
  · rintro before a after rfl last
    obtain ⟨e, alone, found⟩ := lookup_last compiled last
    refine ⟨.obj e, by rw [compileAll_singleton, alone]; rfl, ?_⟩
    rw [Members.lookup_update own distinct, found, Option.some_or]

theorem names_withMinDocCount (count : Option Int) (ms : Members) :
    (withMinDocCount count ms).names = withName ms.names "min_doc_count" count.isSome := by
  cases count with
  | none => rfl
  | some n => exact Members.names_put ms _ _

theorem filter_withMinDocCount (count : Option Int) (ms : Members) :
    (withMinDocCount count ms).filter (·.1 ∉ setMembers) = ms.filter (·.1 ∉ setMembers) := by
  cases count with
  | none => rfl
  | some n => exact Members.filter_put (p := fun name => name ∉ setMembers) (by decide) ms _

theorem lookup_minDocCount (count : Option Int) (ms : Members) :
    (withMinDocCount count ms).lookup "min_doc_count" =
      (count.map .int).or (ms.lookup "min_doc_count") := by
  cases count with
  | none => rfl
  | some n => exact Members.lookup_put_self ms _ _

theorem aggs_ne_minDocCount : "aggs" ≠ "min_doc_count" := by decide

theorem extends_childless (setting : Setting) (body own : Members) (count : Option Int) :
    Extends setting body own count [] (withMinDocCount count body) where
  names := names_withMinDocCount count body
  others := filter_withMinDocCount count body
  childless _ := lookup_withMinDocCount count body aggs_ne_minDocCount
  nested present := absurd rfl present
  minDocCount := lookup_minDocCount count body

theorem extends_children (body own : Members) (count : Option Int) (present : children ≠ [])
    (compiled : compileAll setting children = .ok nested) :
    Extends setting body own count children
      (withMinDocCount count (body.put "aggs" (.obj (own.update nested)))) where
  names := by
    have some : children.isEmpty = false := by simpa using present
    rw [names_withMinDocCount, Members.names_put, some]
    rfl
  others := by
    rw [filter_withMinDocCount]
    exact Members.filter_put (p := fun name => name ∉ setMembers) (by decide) body _
  childless none := absurd none present
  nested _ := by
    refine ⟨own.update nested, ?_, overlays compiled own⟩
    rw [lookup_withMinDocCount count _ aggs_ne_minDocCount, Members.lookup_put_self]
  minDocCount := by
    rw [lookup_minDocCount, Members.lookup_put_of_ne _ _ aggs_ne_minDocCount.symm]

/-- What is compiled for a native body whose children are compiled. -/
theorem entry_native (read : Native.read value = .ok body)
    (compiled : compileAll setting children = .ok nested) :
    entry setting (.mk key (.native value) count children) =
      if children.isEmpty then .ok (withMinDocCount count body)
      else ((Native.nest body nested).mapError (.nesting key)).map (withMinDocCount count) := by
  have content : (Body.native value).compile setting key = .ok (.native body) := by
    rw [Body.compile, read]
    rfl
  rw [entry, compileChildren_ok compiled, content]
  cases children <;> rfl

/-- A native body is kept, whether it is given as an object or in a text. What is set in it is the
least number of documents and the children, among the nested aggregations that it names itself. -/
theorem native_body_extended (read : Native.read value = .ok body)
    (named : Native.ownNested? body = some own)
    (compiled : compileAll setting children = .ok nested) :
    ∃ e, compileAll setting [.mk key (.native value) count children] = .ok [(key, .obj e)] ∧
      Extends setting body own count children e := by
  have single := compileAll_singleton setting (.mk key (.native value) count children)
  rw [entry_native read compiled] at single
  cases children with
  | nil => exact ⟨_, single, extends_childless setting body own count⟩
  | cons a as =>
    rw [Native.nest_own named] at single
    exact ⟨_, single, extends_children body own count (List.cons_ne_nil a as) compiled⟩

/-- A text that names two nested aggregations: a child takes the place of the second, and another
follows. -/
theorem sampler_text_extended :
    let low : Value := .obj [("min", .obj [("field", .str "price")])]
    let own : Members := [("low", low), ("stats", .null)]
    let body : Members := [("min_doc_count", .int 1), ("aggs", .obj own), ("sampler", .obj [])]
    let value : Value := .str (Value.obj body).json
    let setting : Setting := ⟨none, ⟨0, some 0⟩⟩
    let children : List Aggregation :=
      [.mk "stats" (.stats "price") none [], .mk "sizes" (.cardinality "size") none []]
    Native.read value = .ok body ∧ Native.ownNested? body = some own ∧
    (∃ nested, compileAll setting children = .ok nested) ∧
    ∃ e ms : Members, compileAll setting [.mk "key" (.native value) (some 3) children] =
        .ok [("key", .obj e)] ∧
      e.names = ["min_doc_count", "aggs", "sampler"] ∧ e.lookup "min_doc_count" = some (.int 3) ∧
      e.lookup "aggs" = some (.obj ms) ∧ ms.names = ["low", "stats", "sizes"] ∧
      ms.lookup "low" = some low := by
  intro low own body value setting children
  have word : Value.FitsWord 1 := by
    unfold Value.FitsWord
    decide
  have low_plain : low.IsPlain := ⟨by decide, ⟨by decide, trivial, trivial⟩, trivial⟩
  have plain : (Value.obj body).IsPlain :=
    ⟨by decide, word, ⟨by decide, low_plain, trivial, trivial⟩, ⟨by decide, trivial⟩, trivial⟩
  have read : Native.read value = .ok body :=
    Native.readText_writes (Native.isTree_of_plain plain) (Value.isJsonText_json plain)
  have compiled : compileAll setting children = .ok _ := rfl
  obtain ⟨e, made, extended⟩ := native_body_extended read rfl compiled
  obtain ⟨ms, there, overlaid⟩ := extended.nested (List.cons_ne_nil _ _)
  refine ⟨read, rfl, ⟨_, compiled⟩, e, ms, made, ?_, extended.minDocCount, there, ?_, ?_⟩
  · rw [extended.names]
    decide
  · rw [overlaid.names]
    decide
  · exact overlaid.own "low" (by decide)

/-! Bodies that take none -/

/-- Compiling a native aggregation alone gives its entry or reports the value that it was given; and
it reports a body that has something else than an object where its children should go. -/
structure IsReported (key : String) (value : Value) (children : List Aggregation)
    (outcome : Except CompileFault Members) : Prop where
  entry_or_report : (∃ e, outcome = .ok [(key, .obj e)]) ∨
    ∃ defect, outcome = .error (.native key defect)
  refused : ∀ body, Native.read value = .ok body → children ≠ [] →
    Native.ownNested? body = none → ∃ defect, outcome = .error (.native key defect)

/-- A value that is no body is reported. -/
theorem compileAll_unread {defect : Native.Defect} (unread : Native.read value = .error defect)
    (compiled : compileAll setting children = .ok nested) :
    compileAll setting [.mk key (.native value) count children] = .error (.native key defect) := by
  have content : (Body.native value).compile setting key = .error (.native key defect) := by
    rw [Body.compile, unread]
    rfl
  rw [compileAll_singleton, entry, compileChildren_ok compiled, content]
  rfl

/-- A value that is a body is not. -/
theorem not_reported (read : Native.read value = .ok body)
    (compiled : compileAll setting children = .ok nested) (defect : Native.Defect) :
    compileAll setting [.mk key (.native value) count children] ≠ .error (.native key defect) := by
  rw [compileAll_singleton, entry_native read compiled]
  cases children with
  | nil => nofun
  | cons a as =>
    cases Native.nest body nested <;> nofun

/-- The value of a native aggregation is reported wherever it should be exactly if it is no body, or
there are no children, or the body has an object for them, null or nothing. -/
theorem native_reported_iff (compiled : compileAll setting children = .ok nested) :
    IsReported key value children (compileAll setting [.mk key (.native value) count children]) ↔
      ∀ body, Native.read value = .ok body → children ≠ [] →
        (Native.ownNested? body).isSome = true := by
  constructor
  · intro reported body read present
    by_contra unnamed
    rw [Bool.not_eq_true, Option.isSome_eq_false_iff, Option.isNone_iff_eq_none] at unnamed
    obtain ⟨defect, failed⟩ := reported.refused body read present unnamed
    exact not_reported read compiled defect failed
  · intro objects
    cases read : Native.read value with
    | error defect =>
      refine ⟨.inr ⟨defect, compileAll_unread read compiled⟩, fun body other => ?_⟩
      cases read.symm.trans other
    | ok body =>
      have entry : ∃ e, compileAll setting [.mk key (.native value) count children] =
          .ok [(key, .obj e)] := by
        rw [compileAll_singleton, entry_native read compiled]
        cases children with
        | nil => exact ⟨_, rfl⟩
        | cons a as =>
          have object := objects body read (List.cons_ne_nil a as)
          obtain ⟨own, named⟩ := Option.isSome_iff_exists.mp object
          rw [Native.nest_own named]
          exact ⟨_, rfl⟩
      refine ⟨.inl entry, fun other same present unnamed => ?_⟩
      have named := objects other same present
      rw [unnamed] at named
      cases named

/-- A number and the text of a list are reported; where a body has null for its children, they are
added to it. -/
theorem number_reported :
    let setting : Setting := ⟨none, ⟨0, some 0⟩⟩
    let children : List Aggregation := [.mk "prices" (.stats "price") none []]
    let compiled (value : Value) := compileAll setting [.mk "key" (.native value) none children]
    (∃ nested, compileAll setting children = .ok nested) ∧
    compiled (.int 42) = .error (.native "key" (.unsupportedType "int")) ∧
    (∀ value ∈ [.int 42, .str "[1]", .obj [("aggs", .null)]],
      IsReported "key" value children (compiled value)) := by
  intro setting children compiled
  have sibling : compileAll setting children = .ok _ := rfl
  refine ⟨⟨_, sibling⟩, rfl, fun value among => (native_reported_iff sibling).mpr ?_⟩
  intro body read _
  simp only [List.mem_cons, List.not_mem_nil, or_false] at among
  rcases among with rfl | rfl | rfl
  · cases read
  · have other : Native.read (.str "[1]") = .error (.notObject "list") := rfl
    cases other.symm.trans read
  · cases read
    rfl

/-- What stands where children should go and is no object: a number and a text are not reported as
the value of the aggregation, and pairs of characters and false are taken for nested aggregations
of the body or for none. -/
theorem scalars_not_reported :
    let setting : Setting := ⟨none, ⟨0, some 0⟩⟩
    let children : List Aggregation := [.mk "prices" (.stats "price") none []]
    let prices : String × Value := ("prices", .obj [("stats", .obj [("field", .str "price")])])
    let compiled (own : Value) :=
      compileAll setting [.mk "key" (.native (.obj [("aggs", own)])) none children]
    let entry (ms : Members) : Members := [("key", .obj [("aggs", .obj ms)])]
    (∃ nested, compileAll setting children = .ok nested) ∧
    compiled (.int 5) = .error (.nesting "key" .notPairs) ∧
    compiled (.str "sum") = .error (.nesting "key" .wrongLength) ∧
    compiled (.list [.str "ab"]) = .ok (entry [("a", .str "b"), prices]) ∧
    compiled (.bool false) = .ok (entry [prices]) ∧
    ∀ own ∈ [.int 5, .str "sum", .list [.str "ab"], .bool false],
      ¬ IsReported "key" (.obj [("aggs", own)]) children (compiled own) := by
  intro setting children prices compiled entry
  have number : compiled (.int 5) = .error (.nesting "key" .notPairs) := rfl
  have text : compiled (.str "sum") = .error (.nesting "key" .wrongLength) := rfl
  have pair : compiled (.list [.str "ab"]) = .ok (entry [("a", .str "b"), prices]) := rfl
  have flag : compiled (.bool false) = .ok (entry [prices]) := rfl
  refine ⟨⟨_, rfl⟩, number, text, pair, flag, ?_⟩
  have some : children ≠ [] := List.cons_ne_nil _ _
  intro own among reported
  simp only [List.mem_cons, List.not_mem_nil, or_false] at among
  rcases among with rfl | rfl | rfl | rfl
  · obtain ⟨defect, failed⟩ := reported.refused _ rfl some rfl
    cases number.symm.trans failed
  · obtain ⟨defect, failed⟩ := reported.refused _ rfl some rfl
    cases text.symm.trans failed
  · obtain ⟨defect, failed⟩ := reported.refused _ rfl some rfl
    cases pair.symm.trans failed
  · obtain ⟨defect, failed⟩ := reported.refused _ rfl some rfl
    cases flag.symm.trans failed

end PortableSearch.Aggregation
