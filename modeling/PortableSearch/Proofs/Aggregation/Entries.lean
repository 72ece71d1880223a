import PortableSearch.Aggregation.Compile
import PortableSearch.Proofs.Members
import PortableSearch.Proofs.Outcome

/-! The entries of aggregations. The `aggs` object of a list has the entry of each aggregation
under its key, and an entry is put together from a content and the `aggs` object of the children. -/
namespace PortableSearch.Aggregation

/-- A list of siblings among aggregations or within them. -/
inductive Siblings : List Aggregation → List Aggregation → Prop
  | here {as : List Aggregation} : Siblings as as
  | within {as siblings : List Aggregation} {a : Aggregation} :
    a ∈ as → Siblings a.children siblings → Siblings as siblings

/-- The entry of an aggregation under its key. -/
def named (setting : Setting) (a : Aggregation) : Except CompileFault (String × Value) :=
  (entry setting a).map fun e => (a.key, .obj e)

variable {setting : Setting} {as : List Aggregation} {a : Aggregation}

theorem named_ok {p : String × Value} :
    named setting a = .ok p ↔ ∃ e, entry setting a = .ok e ∧ p = (a.key, .obj e) := by
  rw [named, map_ok]
  exact exists_congr fun e => and_congr_right fun _ => eq_comm

theorem compileOnto_eq (setting : Setting) (entries : Members) (as : List Aggregation) :
    compileOnto setting entries as = (as.mapM (named setting)).map entries.update := by
  induction as generalizing entries with
  | nil => rfl
  | cons a as ih =>
    rw [compileOnto, List.mapM_cons, named]
    cases entry setting a with
    | error fault => rfl
    | ok e =>
      refine (ih _).trans ?_
      cases as.mapM (named setting) <;> rfl

theorem compileAll_eq (setting : Setting) (as : List Aggregation) :
    compileAll setting as = (as.mapM (named setting)).map Members.ofList :=
  compileOnto_eq setting [] as

theorem compileAll_ok {ms : Members} : compileAll setting as = .ok ms ↔
    ∃ entries, as.mapM (named setting) = .ok entries ∧ Members.ofList entries = ms := by
  rw [compileAll_eq, map_ok]

theorem compileAll_singleton (setting : Setting) (a : Aggregation) :
    compileAll setting [a] = (entry setting a).map fun e => [(a.key, .obj e)] := by
  rw [compileAll, compileOnto]
  cases entry setting a <;> rfl

theorem compileChildren_eq (setting : Setting) (as : List Aggregation) :
    compileChildren setting as =
      if as.isEmpty then .ok none else (compileAll setting as).map some := by
  cases as with
  | nil => rfl
  | cons a as =>
    rw [compileChildren, compileAll, compileOnto]
    cases entry setting a with
    | error fault => rfl
    | ok e =>
      simp only [bind, Except.bind, List.isEmpty_cons, Bool.false_eq_true, if_false]
      rfl

theorem compileChildren_ok {ms : Members} (compiled : compileAll setting as = .ok ms) :
    compileChildren setting as = .ok (if as.isEmpty then none else some ms) := by
  rw [compileChildren_eq, compiled]
  split <;> rfl

theorem entry_eq (setting : Setting) (a : Aggregation) : entry setting a = (do
    let nested ← compileChildren setting a.children
    let content ← a.body.compile setting a.key
    content.entry a.key a.minDocCount nested) := by
  obtain ⟨key, body, count, children⟩ := a
  rw [entry]
  rfl

/-- What an entry is put together from. -/
theorem entry_ok {e : Members} : entry setting a = .ok e ↔
    ∃ nested content, compileChildren setting a.children = .ok nested ∧
      a.body.compile setting a.key = .ok content ∧
      content.entry a.key a.minDocCount nested = .ok e := by
  rw [entry_eq]
  simp only [bind_ok, exists_and_left]

theorem mem_withMinDocCount {ms : Members} {m : String × Value} (count : Option Int)
    (inside : m ∈ ms) (other : m.1 ≠ "min_doc_count") : m ∈ withMinDocCount count ms := by
  cases count with
  | none => exact inside
  | some n => exact Members.mem_put_of_ne (.int n) inside other

theorem lookup_withMinDocCount {name : String} (count : Option Int) (ms : Members)
    (other : name ≠ "min_doc_count") : (withMinDocCount count ms).lookup name = ms.lookup name := by
  cases count with
  | none => rfl
  | some n => exact Members.lookup_put_of_ne ms (.int n) other

/-- The content of date ranges in a zone that is known. -/
theorem compile_dateRanges (key field : String) (spans : List Span) (format : Option String)
    {own : Option String} {zone : Calendar.Zone}
    (known : Calendar.Zone.named (Context.zoneFor own setting.timeZone) = .ok zone) :
    (Body.dateRanges field spans format own).compile setting key =
      (spans.mapM (Span.resolve zone setting.anchor)).map fun resolved => .typed "date_range"
        ([fieldMember field] ++ texts "format" format ++ [spanList resolved]) := by
  simp only [Body.compile, resolveZone, known]
  rfl

/-- The entry of date ranges has them resolved in the zone in effect. -/
theorem entry_dateRanges {e : Members} {field : String} {spans : List Span}
    {format own : Option String} (compiled : entry setting a = .ok e)
    (body : a.body = .dateRanges field spans format own) :
    ∃ zone resolved ms rest, Calendar.Zone.named (Context.zoneFor own setting.timeZone) = .ok zone ∧
      spans.mapM (Span.resolve zone setting.anchor) = .ok resolved ∧
      e = ("date_range", .obj ms) :: rest ∧
      ms.lookup "ranges" = some (.list (resolved.map Span.body)) := by
  obtain ⟨nested, content, -, made, written⟩ := entry_ok.mp compiled
  rw [body, Body.compile] at made
  obtain ⟨zone, known, rest⟩ := bind_ok.mp made
  obtain ⟨resolved, each, whole⟩ := bind_ok.mp rest
  cases whole
  cases written
  refine ⟨zone, resolved, _, _, mapError_ok.mp known, each, rfl, ?_⟩
  rw [lookup_withMinDocCount _ _ (by simp)]
  simp [texts, List.lookup_append, Members.lookup_optional, fieldMember, spanList,
    List.lookup_cons]

theorem names_of_mapM {entries : Members} (each : as.mapM (named setting) = .ok entries) :
    entries.names = as.map key := by
  have pairs := mapM_ok_iff.mp each
  clear each
  induction pairs with
  | nil => rfl
  | cons first _ ih =>
    obtain ⟨e, -, rfl⟩ := named_ok.mp first
    simp [ih]

theorem compileAll_names {ms : Members} (compiled : compileAll setting as = .ok ms) :
    ms.names = (as.map key).eraseDups := by
  obtain ⟨entries, each, rfl⟩ := compileAll_ok.mp compiled
  rw [Members.names_ofList, names_of_mapM each]

/-- Every sibling has an entry of its own, also one whose place another takes. -/
theorem compileAll_mem {ms : Members} (compiled : compileAll setting as = .ok ms)
    (inside : a ∈ as) : ∃ e, entry setting a = .ok e := by
  obtain ⟨entries, each, -⟩ := compileAll_ok.mp compiled
  obtain ⟨p, -, own⟩ := mapM_ok_mem each inside
  obtain ⟨e, compiled, -⟩ := named_ok.mp own
  exact ⟨e, compiled⟩

/-- Where an aggregation has an entry, its children are compiled. -/
theorem children_compile {e : Members} (compiled : entry setting a = .ok e) :
    ∃ ms, compileAll setting a.children = .ok ms := by
  obtain ⟨nested, -, children, -⟩ := entry_ok.mp compiled
  rw [compileChildren_eq] at children
  cases none : a.children with
  | nil => exact ⟨[], rfl⟩
  | cons b bs =>
    rw [none] at children
    obtain ⟨ms, all, -⟩ :=
      map_ok.mp (children : (compileAll setting (b :: bs)).map some = .ok nested)
    exact ⟨ms, all⟩

theorem siblings_compile {siblings : List Aggregation} {ms : Members}
    (compiled : compileAll setting as = .ok ms) (inside : Siblings as siblings) :
    ∃ ns, compileAll setting siblings = .ok ns := by
  induction inside generalizing ms with
  | here => exact ⟨ms, compiled⟩
  | within member _ ih =>
    obtain ⟨e, own⟩ := compileAll_mem compiled member
    obtain ⟨ns, children⟩ := children_compile own
    exact ih children

end PortableSearch.Aggregation
