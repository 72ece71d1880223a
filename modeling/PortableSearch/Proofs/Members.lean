import PortableSearch.Value
import Mathlib.Data.List.Forall2

/-! Laws of members: what is left when null members are left out, and what members are after some
are set one after another. A name stands where it was set first and has the value that was set
last. -/
namespace PortableSearch.Members

theorem get_cons (n name : String) (v : Value) (rest : Members) :
    Members.get ((n, v) :: rest) name = if name = n then v else rest.get name := by
  by_cases same : name = n
  · simp [get, same]
  · have other : (name == n) = false := by simpa using same
    simp [get, List.lookup_cons, other, same]

theorem mem_names_iff {ms : Members} {name : String} :
    name ∈ ms.names ↔ (ms.lookup name).isSome = true := by
  rw [Option.isSome_iff_ne_none, Ne, List.lookup_eq_none_iff]
  simp [names]

theorem get_of_not_mem {ms : Members} {name : String} (absent : name ∉ ms.names) :
    ms.get name = .null := by
  induction ms with
  | nil => rfl
  | cons m rest ih =>
    obtain ⟨other, later⟩ := not_or.mp (mt List.mem_cons.mpr absent)
    rw [get_cons, if_neg other]
    exact ih later

theorem compact_cons (n : String) (v : Value) (rest : Members) :
    compact ((n, v) :: rest) = optional n v.present? ++ compact rest := by
  cases v <;> rfl

theorem lookup_optional (name other : String) (v : Option Value) :
    (optional name v).lookup other = if other = name then v else none := by
  by_cases same : other = name
  · cases v <;> simp [optional, same]
  · have different : (other == name) = false := by simpa using same
    cases v <;> simp [optional, List.lookup_cons, different, same]

/-- Of members with distinct names, leaving out those that are null leaves the others. -/
theorem lookup_compact {ms : Members} (distinct : ms.names.Nodup) (name : String) :
    ms.compact.lookup name = (ms.get name).present? := by
  induction ms with
  | nil => rfl
  | cons m rest ih =>
    obtain ⟨n, v⟩ := m
    obtain ⟨fresh, distinct⟩ := List.nodup_cons.mp distinct
    rw [compact_cons, List.lookup_append, lookup_optional, get_cons, ih distinct]
    split
    next same =>
      rw [same, get_of_not_mem fresh]
      exact Option.or_none
    next => rfl

/-- Leaving out the members that are null changes no member. -/
theorem get_compact {ms : Members} (distinct : ms.names.Nodup) (name : String) :
    ms.compact.get name = ms.get name := by
  rw [get, lookup_compact distinct]
  cases ms.get name <;> rfl

/-! Setting members -/

@[simp] theorem names_nil : names [] = [] := rfl

@[simp] theorem names_cons (m : String × Value) (ms : Members) :
    names (m :: ms) = m.1 :: names ms := rfl

@[simp] theorem names_append (first second : Members) :
    names (first ++ second) = names first ++ names second := List.map_append

@[simp] theorem mem_names_optional {name other : String} {v : Option Value} :
    other ∈ names (optional name v) ↔ other = name ∧ v.isSome = true := by
  cases v <;> simp [optional, names]

theorem put_of_not_mem {ms : Members} {name : String} (v : Value) (fresh : name ∉ ms.names) :
    ms.put name v = ms ++ [(name, v)] := by
  induction ms with
  | nil => rfl
  | cons m rest ih =>
    obtain ⟨other, later⟩ := not_or.mp (mt List.mem_cons.mpr fresh)
    rw [put, if_neg fun same => other same.symm, ih later, List.cons_append]

theorem names_put_of_mem {ms : Members} {name : String} (v : Value) (there : name ∈ ms.names) :
    (ms.put name v).names = ms.names := by
  induction ms with
  | nil => simp at there
  | cons m rest ih =>
    by_cases same : m.1 = name
    · simp [put, same]
    · have later : name ∈ names rest :=
        (List.mem_cons.mp there).resolve_left fun h => same h.symm
      simp [put, same, ih later]

/-- Names with one that may be set: it stays where it is, or follows the others. -/
def withName (names : List String) (name : String) (set : Bool) : List String :=
  if set ∧ name ∉ names then names ++ [name] else names

theorem names_put (ms : Members) (name : String) (v : Value) :
    (ms.put name v).names = withName ms.names name true := by
  by_cases there : name ∈ ms.names
  · simp [withName, names_put_of_mem v there, there]
  · simp [withName, put_of_not_mem v there, there]

theorem mem_put (ms : Members) (name : String) (v : Value) : (name, v) ∈ ms.put name v := by
  induction ms with
  | nil => exact List.mem_cons_self
  | cons m rest ih =>
    rw [put]
    split
    · exact List.mem_cons_self
    · exact List.mem_cons_of_mem m ih

theorem mem_put_of_ne {ms : Members} {m : String × Value} {name : String} (v : Value)
    (inside : m ∈ ms) (other : m.1 ≠ name) : m ∈ ms.put name v := by
  induction ms with
  | nil => cases inside
  | cons first rest ih =>
    rw [put]
    rcases List.mem_cons.mp inside with rfl | later
    · rw [if_neg other]
      exact List.mem_cons_self
    · split
      · exact List.mem_cons_of_mem _ later
      · exact List.mem_cons_of_mem _ (ih later)

theorem mem_of_mem_put {ms : Members} {m : String × Value} {name : String} {v : Value}
    (inside : m ∈ ms.put name v) : m ∈ ms ∨ m = (name, v) := by
  induction ms with
  | nil => exact .inr (List.mem_singleton.mp inside)
  | cons first rest ih =>
    rw [put] at inside
    split at inside
    · rcases List.mem_cons.mp inside with rfl | later
      · exact .inr rfl
      · exact .inl (List.mem_cons_of_mem _ later)
    · rcases List.mem_cons.mp inside with rfl | later
      · exact .inl List.mem_cons_self
      · exact (ih later).imp_left (List.mem_cons_of_mem _)

theorem nodup_put {ms : Members} (distinct : ms.names.Nodup) (name : String) (v : Value) :
    (ms.put name v).names.Nodup := by
  by_cases there : name ∈ ms.names
  · rwa [names_put_of_mem v there]
  · rw [put_of_not_mem v there, names_append, List.nodup_append]
    refine ⟨distinct, List.pairwise_singleton _ _, ?_⟩
    rintro other inside last only rfl
    have same : other = name := List.mem_singleton.mp only
    exact there (same ▸ inside)

theorem mem_of_lookup {ms : Members} {name : String} {v : Value}
    (found : ms.lookup name = some v) : (name, v) ∈ ms := by
  obtain ⟨before, after, rfl, -⟩ := List.lookup_eq_some_iff.mp found
  simp

theorem lookup_of_mem {ms : Members} (distinct : ms.names.Nodup) {m : String × Value}
    (inside : m ∈ ms) : ms.lookup m.1 = some m.2 := by
  induction ms with
  | nil => cases inside
  | cons first rest ih =>
    obtain ⟨fresh, distinct⟩ := List.nodup_cons.mp distinct
    rcases List.mem_cons.mp inside with rfl | later
    · exact List.lookup_cons_self
    · have other : m.1 ≠ first.1 := fun same => fresh (same ▸ List.mem_map_of_mem later)
      have skipped : (m.1 == first.1) = false := beq_eq_false_iff_ne.mpr other
      rw [List.lookup_cons, skipped]
      exact ih distinct later

/-! Leaving out the members of a name -/

/-- The members of other names. -/
def without (name : String) (ms : Members) : Members := ms.filter fun m => m.1 ≠ name

theorem lookup_filter {ms : Members} {p : String → Bool} {name : String} (kept : p name = true) :
    (ms.filter fun m => p m.1).lookup name = ms.lookup name := by
  induction ms with
  | nil => rfl
  | cons m rest ih =>
    obtain ⟨n, v⟩ := m
    rw [List.filter_cons]
    split
    next => rw [List.lookup_cons, List.lookup_cons, ih]
    next dropped =>
      have skipped : (name == n) = false := by
        rw [beq_eq_false_iff_ne]
        rintro rfl
        exact dropped kept
      rw [ih, List.lookup_cons, skipped]

theorem lookup_without {ms : Members} {name other : String} (different : other ≠ name) :
    (without name ms).lookup other = ms.lookup other :=
  lookup_filter (p := fun n => n ≠ name) (decide_eq_true different)

theorem filter_put {p : String → Bool} {name : String} (dropped : p name = false) (ms : Members)
    (v : Value) : (ms.put name v).filter (fun m => p m.1) = ms.filter fun m => p m.1 := by
  induction ms with
  | nil => simp [dropped]
  | cons m rest ih =>
    rw [put]
    split
    next same => simp [dropped, same]
    next => simp [List.filter_cons, ih]

theorem without_put (ms : Members) (name : String) (v : Value) :
    without name (ms.put name v) = without name ms :=
  filter_put (p := fun n => n ≠ name) (by simp) ms v

/-! Members that stand in the same places under the same names -/

theorem forall₂_put {R : String × Value → String × Value → Prop} {ms : Members} {name : String}
    {v v' : Value} (found : ms.lookup name = some v) (same : ∀ m, R m m)
    (set : R (name, v) (name, v')) : List.Forall₂ R ms (ms.put name v') := by
  induction ms with
  | nil => cases found
  | cons m rest ih =>
    obtain ⟨n, w⟩ := m
    by_cases here : n = name
    · obtain rfl := here
      obtain rfl : w = v := by simpa using found
      rw [put, if_pos rfl]
      exact .cons set (List.forall₂_same.mpr fun m _ => same m)
    · have skipped : (name == n) = false := by simpa using fun equal => here equal.symm
      rw [List.lookup_cons, skipped] at found
      rw [put, if_neg here]
      exact .cons (same _) (ih found)

theorem names_of_forall₂ {γ : Type} {cs : List (String × γ)} {ms : Members}
    (same : List.Forall₂ (fun c m => m.1 = c.1) cs ms) : ms.names = cs.map Prod.fst := by
  induction same with
  | nil => rfl
  | cons first _ ih => rw [names_cons, List.map_cons, ih, first]

theorem lookup_map_congr {β : Type} {g : Value → β} {ms ms' : Members} {name : String}
    (alike : List.Forall₂ (fun m m' => m.1 = m'.1 ∧ (m.1 = name → g m.2 = g m'.2)) ms ms') :
    (ms.lookup name).map g = (ms'.lookup name).map g := by
  induction alike with
  | nil => rfl
  | @cons m m' _ _ first _ ih =>
    obtain ⟨n, v⟩ := m
    obtain ⟨_, v'⟩ := m'
    obtain ⟨rfl, same⟩ := first
    rw [List.lookup_cons, List.lookup_cons]
    cases here : name == n with
    | true => exact congrArg some (same (eq_of_beq here).symm)
    | false => exact ih

theorem filter_names_congr {p : String → Bool} {ms ms' : Members} (alike : List.Forall₂
      (fun m m' => m.1 = m'.1 ∧ (p m.1 = true → m.2 = m'.2)) ms ms') :
    ms.filter (fun m => p m.1) = ms'.filter fun m => p m.1 := by
  induction alike with
  | nil => rfl
  | @cons m m' _ _ first _ ih =>
    obtain ⟨n, v⟩ := m
    obtain ⟨_, v'⟩ := m'
    obtain ⟨rfl, same⟩ := first
    rw [List.filter_cons, List.filter_cons, ih]
    split
    next kept =>
      obtain rfl : v = v' := same kept
      rfl
    next => rfl

/-! Setting members one after another -/

theorem update_cons (ms : Members) (m : String × Value) (more : Members) :
    ms.update (m :: more) = (ms.put m.1 m.2).update more := rfl

theorem update_append (ms first second : Members) :
    ms.update (first ++ second) = (ms.update first).update second := List.foldl_append

theorem lookup_update_of_not_mem (ms : Members) {more : Members} {name : String}
    (absent : name ∉ more.names) : (ms.update more).lookup name = ms.lookup name := by
  induction more generalizing ms with
  | nil => rfl
  | cons m more ih =>
    obtain ⟨other, later⟩ := not_or.mp (mt List.mem_cons.mpr absent)
    rw [update_cons, ih _ later, lookup_put_of_ne _ _ other]

/-- The value that is set last counts. -/
theorem lookup_ofList_last (before : Members) {after : Members} {name : String} (v : Value)
    (absent : name ∉ after.names) :
    (ofList (before ++ (name, v) :: after)).lookup name = some v := by
  rw [ofList, update_append, update_cons, lookup_update_of_not_mem _ absent, lookup_put_self]

/-- New names follow the names that are there, each once and in the order in which they are set. -/
theorem names_update (ms more : Members) :
    (ms.update more).names = ms.names ++ (more.names.filter (· ∉ ms.names)).eraseDups := by
  induction more generalizing ms with
  | nil => exact (List.append_nil _).symm
  | cons m more ih =>
    rw [update_cons, ih, names_cons]
    by_cases there : m.1 ∈ ms.names
    · rw [names_put_of_mem m.2 there, List.filter_cons_of_neg (by simpa using there)]
    · have later : (names more).filter (· ∉ ms.names ++ [m.1]) =
          ((names more).filter (· ∉ ms.names)).filter (!· == m.1) := by
        rw [List.filter_filter]
        refine List.filter_congr fun n _ => ?_
        simp [Bool.and_comm, beq_eq_decide]
      rw [put_of_not_mem m.2 there, names_append, names_cons, names_nil, later,
        List.filter_cons_of_pos (by simpa using there), List.eraseDups_cons, List.append_assoc,
        List.singleton_append]

theorem names_ofList (ms : Members) : (ofList ms).names = ms.names.eraseDups := by
  rw [ofList, names_update, names_nil, List.nil_append, List.filter_eq_self.mpr (by simp)]

theorem eraseDups_of_nodup {names : List String} (distinct : names.Nodup) :
    names.eraseDups = names := by
  induction names with
  | nil => rfl
  | cons name names ih =>
    obtain ⟨fresh, distinct⟩ := List.nodup_cons.mp distinct
    have others : names.filter (!· == name) = names := by
      refine List.filter_eq_self.mpr fun other inside => ?_
      have different : other ≠ name := fun same => fresh (same ▸ inside)
      simpa using different
    rw [List.eraseDups_cons, others, ih distinct]

theorem names_update_of_nodup (ms : Members) {more : Members} (distinct : more.names.Nodup) :
    (ms.update more).names = ms.names ++ more.names.filter (· ∉ ms.names) := by
  rw [names_update, eraseDups_of_nodup (distinct.filter _)]

/-- The value that is set counts, also where there was one. -/
theorem lookup_update (ms : Members) {more : Members} (distinct : more.names.Nodup)
    (name : String) : (ms.update more).lookup name = (more.lookup name).or (ms.lookup name) := by
  induction more generalizing ms with
  | nil => rfl
  | cons m more ih =>
    obtain ⟨n, v⟩ := m
    obtain ⟨fresh, distinct⟩ := List.nodup_cons.mp distinct
    rw [update_cons, ih _ distinct]
    by_cases same : name = n
    · subst same
      have none : List.lookup name more = none := by
        rwa [← Option.not_isSome_iff_eq_none, ← mem_names_iff]
      rw [lookup_put_self, none, List.lookup_cons_self]
      rfl
    · have skipped : (name == n) = false := by simpa using same
      rw [lookup_put_of_ne _ _ same, List.lookup_cons, skipped]

theorem mem_of_mem_update {ms more : Members} {m : String × Value}
    (inside : m ∈ ms.update more) : m ∈ ms ∨ m ∈ more := by
  induction more generalizing ms with
  | nil => exact .inl inside
  | cons first more ih =>
    rcases ih inside with set | later
    · rcases mem_of_mem_put set with there | rfl
      · exact .inl there
      · exact .inr List.mem_cons_self
    · exact .inr (List.mem_cons_of_mem _ later)

theorem nodup_ofList (ms : Members) : (ofList ms).names.Nodup := by
  suffices ∀ first : Members, first.names.Nodup → (first.update ms).names.Nodup from
    this [] List.nodup_nil
  induction ms with
  | nil => exact fun first distinct => distinct
  | cons m rest ih => exact fun first distinct => ih _ (nodup_put distinct m.1 m.2)

end PortableSearch.Members
