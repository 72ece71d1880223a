import PortableSearch.Proofs.Shape.Reading
import PortableSearch.Proofs.Value.Plain
import PortableSearch.Proofs.Decimal.Range

/-! Reading a value that a text holds and reading it as data. Of plain values both give the same or
both fail; they may differ in the faults. -/
namespace PortableSearch.Shape
open Value
variable {α β γ : Type}

/-- Two checks have the same result, or both fail. -/
def Agree (x y : Checked α) : Prop := ∀ a, x = .ok a ↔ y = .ok a

namespace Agree

theorem refl (x : Checked α) : Agree x x := fun _ => Iff.rfl

theorem map {x y : Checked α} (agree : Agree x y) (f : α → β) : Agree (x.map f) (y.map f) := by
  intro b
  simp only [map_ok, agree _]

theorem within {x y : Checked α} (agree : Agree x y) (step : Step) :
    Agree (Checked.within step x) (Checked.within step y) := by
  intro a
  rw [Checked.within_ok, Checked.within_ok, agree]

theorem both {x x' : Checked α} {y y' : Checked β} (first : Agree x x') (second : Agree y y') :
    Agree (Checked.both x y) (Checked.both x' y') := by
  intro p
  rw [Checked.both_ok, Checked.both_ok, first, second]

end Agree

/-! Lists and dictionaries -/

theorem forall₂_congr_mem {R S : γ → α → Prop} {cs : List γ} {as : List α}
    (same : ∀ c ∈ cs, ∀ a, R c a ↔ S c a) : List.Forall₂ R cs as ↔ List.Forall₂ S cs as := by
  induction cs generalizing as with
  | nil => cases as <;> simp
  | cons c cs ih =>
    obtain ⟨first, rest⟩ := List.forall_mem_cons.mp same
    cases as with
    | nil => simp
    | cons a as => rw [List.forall₂_cons, List.forall₂_cons, first, ih rest]

theorem gatherIndexed_agrees {f g : γ → Checked α} {cs : List γ}
    (agree : ∀ c ∈ cs, Agree (f c) (g c)) :
    Agree (Checked.gatherIndexed (cs.map f)) (Checked.gatherIndexed (cs.map g)) := by
  intro as
  rw [Checked.gatherIndexed_ok, Checked.gatherIndexed_ok, List.forall₂_map_left_iff,
    List.forall₂_map_left_iff]
  exact forall₂_congr_mem agree

theorem gatherNamed_agrees {f g : String × γ → Checked α} {cs : List (String × γ)}
    (agree : ∀ c ∈ cs, Agree (f c) (g c)) :
    Agree (Checked.gatherNamed (cs.map fun c => (c.1, f c)))
      (Checked.gatherNamed (cs.map fun c => (c.1, g c))) := by
  intro as
  rw [Checked.gatherNamed_ok, Checked.gatherNamed_ok, List.forall₂_map_left_iff,
    List.forall₂_map_left_iff]
  exact forall₂_congr_mem fun c inside a => and_congr_right fun _ => agree c inside a.2

theorem names_of_gatherNamed {f : String × γ → Checked Value} {cs : List (String × γ)}
    {out : Members} (gathered : Checked.gatherNamed (cs.map fun c => (c.1, f c)) = .ok out) :
    out.names = cs.map Prod.fst := by
  rw [Checked.gatherNamed_ok, List.forall₂_map_left_iff] at gathered
  exact Members.names_of_forall₂ (gathered.imp fun _ _ both => both.1)

/-! Scalars -/

theorem doubleOfInteger_plain {n : Int} (fits : FitsWord n) :
    doubleOfInteger .text n = doubleOfInteger .data n := by
  obtain ⟨x, found⟩ := Decimal.ofInt?_eq_some (natAbs_of_fitsWord fits)
  simp only [doubleOfInteger, found]

theorem readDouble_plain {v : Value} (plain : v.IsPlain) :
    readDouble .text v = readDouble .data v := by
  cases v with
  | int n => exact doubleOfInteger_plain plain
  | _ => rfl

/-- Only the defect of a number that is no flag depends on the source. -/
theorem readFlag_agrees (v : Value) : Agree (.ofExcept ((readFlag .text v).map Value.bool))
    (.ofExcept ((readFlag .data v).map Value.bool)) := by
  cases v with
  | int n =>
    simp only [readFlag]
    split
    · exact .refl _
    · split
      · exact .refl _
      · exact fun _ => ⟨nofun, nofun⟩
  | _ => exact .refl _

theorem settle_plain {v : Value} (plain : v.IsPlain) (source : Source) : source.settle v = v := by
  cases source with
  | data => rfl
  | text => exact distinct_of_plain plain

theorem lastOfEach_plain {ms : Members} (distinct : ms.names.Nodup) (source : Source) :
    source.lastOfEach ms = ms := by
  cases source with
  | data => rfl
  | text => exact Members.ofList_of_nodup distinct

theorem buildRecord_plain {ms : Members} (plain : ∀ m ∈ ms, m.2.IsPlain) (kinds : List String)
    (type : RecordType FieldType) :
    buildRecord .text kinds type ms = buildRecord .data kinds type ms := by
  funext fields
  have settled : ∀ others : Members, (∀ m ∈ others, m ∈ ms) →
      (others.map fun m => (m.1, Source.text.settle m.2)) =
        others.map fun m => (m.1, Source.data.settle m.2) := by
    intro others among
    refine List.map_congr_left fun m inside => ?_
    have own := plain m (among m inside)
    rw [settle_plain own, settle_plain own]
  simp only [buildRecord]
  rw [settled]
  intro m inside
  split at inside
  · exact List.mem_of_mem_filter inside
  · cases inside

/-! Types -/

mutual

/-- By recursion on the type. -/
theorem read_agrees : ∀ (type : FieldType) {v : Value}, v.IsPlain →
    Agree (type.read .text v) (type.read .data v)
  | .any, v, plain => by
    rw [FieldType.read, FieldType.read, settle_plain plain, settle_plain plain]
    exact .refl _
  | .text, _, _ | .integer, _, _ | .moment, _, _ | .instant, _, _ | .choice _, _, _
  | .instanceOnly, _, _ => by
    simp only [FieldType.read]
    exact .refl _
  | .double, v, plain => by
    rw [FieldType.read, FieldType.read, readDouble_plain plain]
    exact .refl _
  | .flag, v, _ => by
    rw [FieldType.read, FieldType.read]
    exact readFlag_agrees v
  | .nullable type, v, plain => by
    have inner := read_agrees type plain
    simp only [FieldType.read]
    split
    · exact .refl _
    · exact inner
  | .list nonempty type, v, plain => by
    cases v with
    | list vs =>
      have each : ∀ v ∈ vs, Agree (type.read .text v) (type.read .data v) :=
        fun v inside => read_agrees type (isPlain_list.mp plain v inside)
      simp only [FieldType.read]
      split
      · exact .refl _
      · exact (gatherIndexed_agrees each).map _
    | record => cases plain
    | _ =>
      simp only [FieldType.read]
      exact .refl _
  | .dict type, v, plain => by
    cases v with
    | obj ms =>
      obtain ⟨distinct, members⟩ := isPlain_obj.mp plain
      have each : ∀ m ∈ ms, Agree (type.read .text m.2) (type.read .data m.2) :=
        fun m inside => read_agrees type (members m inside)
      intro w
      simp only [FieldType.read, map_ok]
      refine exists_congr fun out => ?_
      rw [gatherNamed_agrees each]
      refine and_congr_right fun gathered => ?_
      have names : Members.names out = Members.names ms := names_of_gatherNamed gathered
      rw [lastOfEach_plain (names ▸ distinct), lastOfEach_plain (names ▸ distinct)]
    | _ =>
      simp only [FieldType.read]
      exact .refl _
  | .record type, v, plain => by
    cases v with
    | obj ms =>
      obtain ⟨distinct, members⟩ := isPlain_obj.mp plain
      have fields := readRecordFields_agree type members
      simp only [FieldType.read, lastOfEach_plain distinct, buildRecord_plain members]
      exact fields.map _
    | record => cases plain
    | _ =>
      simp only [FieldType.read]
      exact .refl _
  | .prepared preparation type, v, plain => by
    rw [FieldType.read, FieldType.read, settle_plain plain, settle_plain plain]
    exact .refl _

theorem readRecordFields_agree : ∀ (type : RecordType FieldType) {ms : Members},
    (∀ m ∈ ms, m.2.IsPlain) →
      Agree (readRecordFields .text type ms) (readRecordFields .data type ms)
  | ⟨_, fields, _⟩, ms, plain => by
    rw [readRecordFields, readRecordFields]
    exact readFields_agree fields plain

theorem readFields_agree : ∀ (fields : List (FieldSpec FieldType)) {ms : Members},
    (∀ m ∈ ms, m.2.IsPlain) → Agree (readFields .text fields ms) (readFields .data fields ms)
  | [], ms, _ => by
    rw [readFields, readFields]
    exact .refl _
  | f :: fields, ms, plain => by
    rw [readFields, readFields]
    exact ((readField_agrees f plain).both (readFields_agree fields plain)).map _

theorem readField_agrees : ∀ (f : FieldSpec FieldType) {ms : Members},
    (∀ m ∈ ms, m.2.IsPlain) → Agree (readField .text f ms) (readField .data f ms)
  | ⟨name, outerName, type, fallback⟩, ms, plain => by
    have own : ∀ {n : String} {v : Value}, ms.lookup n = some v →
        Agree (type.read .text v) (type.read .data v) := fun found =>
      read_agrees type (plain _ (Members.mem_of_lookup found))
    simp only [readField]
    split
    · rename_i found
      exact ((own found).within _).map _
    · rename_i found
      exact ((own found).within _).map _
    · exact .refl _
    · exact .refl _

end

end PortableSearch.Shape
