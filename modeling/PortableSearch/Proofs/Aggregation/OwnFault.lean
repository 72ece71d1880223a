import Mathlib.Data.List.TakeDrop
import Mathlib.Data.List.TakeWhile
import PortableSearch.Proofs.Aggregation.Entries
import PortableSearch.Proofs.Aggregation.Nesting
import PortableSearch.Proofs.Query.Faults

/-! Why an aggregation has no entry although its children have theirs. The reasons are listed as a
relation, and the compilation of the aggregation fails by exactly these. -/
namespace PortableSearch

/-- The bounds of a span that are there, the start before the stop. -/
def Span.bounds (s : Span) : List Value := s.start.toList ++ s.stop.toList

namespace Aggregation
open Calendar

/-- A number and a unit that only the calendar has, other than one of it, perhaps with a line feed
after them. -/
def IsCalendarMultiple (interval : String) : Prop :=
  interval ∉ ["1w", "1M", "1q", "1y"] ∧ ∃ number unit ending,
    interval.toList = number ++ unit :: ending ∧ number ≠ [] ∧
      (∀ c ∈ number, Text.isDecimalDigit c = true) ∧ unit ∈ ['w', 'M', 'q', 'y'] ∧
      (ending = [] ∨ ending = ['\n'])

/-- What a bound of a date range fails with. -/
inductive BoundFails (zone : Zone) (anchor : Moment) : Value → CompileFault → Prop
  | expression {s : String} {fault : DateMath.Fault} :
    DateMath.evaluate zone anchor false s = .error fault →
    BoundFails zone anchor (.str s) (.dateMath s fault)

/-- What an aggregation itself fails with, where its children do not fail. -/
inductive FailsWith (setting : Setting) : Aggregation → CompileFault → Prop
  /-- The kind is not known. -/
  | unsupported {key kind : String} {count : Option Int} {children : List Aggregation} :
    FailsWith setting (mk key (.other kind) count children) (.unsupportedAggregation key kind)
  /-- The interval is a multiple of a calendar unit. -/
  | interval {key field interval : String} {format offset timeZone : Option String}
      {count : Option Int} {children : List Aggregation} :
    IsCalendarMultiple interval →
    FailsWith setting
      (mk key (.dateHistogram field interval format offset timeZone) count children)
      (.invalidInterval key interval)
  /-- The zone of date ranges does not resolve. -/
  | zone {key field : String} {spans : List Span} {format own name : Option String}
      {count : Option Int} {children : List Aggregation} {fault : Zone.NameFault} :
    name = Context.zoneFor own setting.timeZone → Zone.named name = .error fault →
    FailsWith setting (mk key (.dateRanges field spans format own) count children)
      (.zone (name.getD "") fault)
  /-- A bound does not resolve in the zone, and none before it. -/
  | bound {key field : String} {spans : List Span} {format own : Option String}
      {count : Option Int} {children : List Aggregation} {zone : Zone} {fault : CompileFault} :
    Zone.named (Context.zoneFor own setting.timeZone) = .ok zone →
    FirstIn (BoundFails zone setting.anchor) (spans.flatMap Span.bounds) fault →
    FailsWith setting (mk key (.dateRanges field spans format own) count children) fault
  /-- A query in one of the filters has no clause, and none before it. -/
  | filter {key : String} {queries : List (String × Query)} {count : Option Int}
      {children : List Aggregation} {fault : Query.UnsupportedKind} :
    FirstIn Query.FailsWith (queries.flatMap fun named => named.2.parts) fault →
    FailsWith setting (mk key (.filters queries) count children) (.unsupportedQuery fault)
  /-- The native body is no object. -/
  | native {key : String} {value : Value} {count : Option Int} {children : List Aggregation}
      {defect : Native.Defect} :
    Native.read value = .error defect →
    FailsWith setting (mk key (.native value) count children) (.native key defect)
  /-- The native body does not take the children. -/
  | nesting {key : String} {value : Value} {count : Option Int} {children : List Aggregation}
      {body : Members} {defect : Native.NestingDefect} :
    Native.read value = .ok body → children ≠ [] → Native.RefusesNested body defect →
    FailsWith setting (mk key (.native value) count children) (.nesting key defect)

/-! Intervals -/

theorem dropFinalNewline_append (cs : List Char) :
    ∃ ending, (ending = [] ∨ ending = ['\n']) ∧ cs = dropFinalNewline cs ++ ending := by
  by_cases newline : cs.getLast? = some '\n'
  · refine ⟨['\n'], .inr rfl, ?_⟩
    obtain ⟨front, rfl⟩ := List.getLast?_eq_some_iff.mp newline
    simp [dropFinalNewline]
  · exact ⟨[], .inl rfl, by simp [dropFinalNewline, newline]⟩

theorem dropFinalNewline_of_ne {front ending : List Char} {c : Char} (other : c ≠ '\n')
    (ends : ending = [] ∨ ending = ['\n']) :
    dropFinalNewline (front ++ c :: ending) = front ++ [c] := by
  rcases ends with rfl | rfl
  · simp [dropFinalNewline, other]
  · have split : front ++ [c, '\n'] = (front ++ [c]) ++ ['\n'] := by simp
    rw [dropFinalNewline, split, List.getLast?_concat, if_pos rfl, List.dropLast_concat]

/-- A text is a number and a unit of one letter where it is some digits, the letter and perhaps a
line feed. -/
theorem unitOf?_letter {cs : List Char} {unit : Char} (letter : unit.isAlpha = true)
    (noDigit : Text.isDecimalDigit unit = false) : unitOf? cs = some [unit] ↔
      ∃ number ending, cs = number ++ unit :: ending ∧ number ≠ [] ∧
        (∀ c ∈ number, Text.isDecimalDigit c = true) ∧ (ending = [] ∨ ending = ['\n']) := by
  constructor
  · intro found
    obtain ⟨ending, ends, whole⟩ := dropFinalNewline_append cs
    simp only [unitOf?, List.span_eq_takeWhile_dropWhile] at found
    split at found
    · cases found
    next filled =>
      have rest := Option.some.inj found
      refine ⟨(dropFinalNewline cs).takeWhile Text.isDecimalDigit, ending, ?_, ?_, ?_, ends⟩
      · conv_lhs => rw [whole, ← List.takeWhile_append_dropWhile
          (p := Text.isDecimalDigit) (l := dropFinalNewline cs), rest]
        simp
      · rintro empty
        simp [empty] at filled
      · exact fun c inside => List.mem_takeWhile_imp inside
  · rintro ⟨number, ending, rfl, filled, digits, ends⟩
    have other : unit ≠ '\n' := by
      rintro rfl
      exact absurd letter (by decide)
    have digits' : number.takeWhile Text.isDecimalDigit = number :=
      List.takeWhile_eq_self_iff.mpr digits
    simp only [unitOf?, dropFinalNewline_of_ne other ends, List.span_eq_takeWhile_dropWhile,
      List.takeWhile_append_of_pos digits, List.dropWhile_append_of_pos digits]
    simp [noDigit, filled, letter]

theorem isCalendarMultiple_iff {interval : String} : IsCalendarMultiple interval ↔
    interval ∉ ["1w", "1M", "1q", "1y"] ∧
      ∃ unit ∈ calendarOnlyUnits, unitOf? interval.toList = some unit := by
  have letters : ∀ unit ∈ ['w', 'M', 'q', 'y'],
      unit.isAlpha = true ∧ Text.isDecimalDigit unit = false := by
    intro unit inside
    simp only [List.mem_cons, List.not_mem_nil, or_false] at inside
    rcases inside with rfl | rfl | rfl | rfl <;> decide
  have units : calendarOnlyUnits = ['w', 'M', 'q', 'y'].map ([·]) := rfl
  simp only [units, List.mem_map, exists_exists_and_eq_and]
  refine and_congr_right fun _ => ?_
  constructor
  · rintro ⟨number, unit, ending, whole, filled, digits, inside, ends⟩
    obtain ⟨letter, noDigit⟩ := letters unit inside
    exact ⟨unit, inside,
      (unitOf?_letter letter noDigit).mpr ⟨number, ending, whole, filled, digits, ends⟩⟩
  · rintro ⟨unit, inside, found⟩
    obtain ⟨letter, noDigit⟩ := letters unit inside
    obtain ⟨number, ending, whole, filled, digits, ends⟩ :=
      (unitOf?_letter letter noDigit).mp found
    exact ⟨number, unit, ending, whole, filled, digits, inside, ends⟩

theorem intervalKind?_eq_none {interval : String} :
    intervalKind? interval = none ↔ IsCalendarMultiple interval := by
  have singles : ∀ i ∈ ["1w", "1M", "1q", "1y"], i ∈ calendarIntervals := by decide
  have others : ∀ i ∈ calendarIntervals, ∀ unit ∈ calendarOnlyUnits,
      unitOf? i.toList = some unit → i ∈ ["1w", "1M", "1q", "1y"] := by decide
  rw [isCalendarMultiple_iff, intervalKind?]
  by_cases known : interval ∈ calendarIntervals
  · rw [if_pos (List.contains_iff_mem.mpr known)]
    constructor
    · nofun
    · rintro ⟨multiple, unit, inside, found⟩
      exact absurd (others interval known unit inside found) multiple
  · rw [if_neg (mt List.contains_iff_mem.mp known)]
    have multiple : interval ∉ ["1w", "1M", "1q", "1y"] := mt (singles interval) known
    rw [and_iff_right multiple]
    cases found : unitOf? interval.toList with
    | none => simp
    | some unit =>
      have single : calendarOnlyUnits.contains unit = true ↔
          ∃ u ∈ calendarOnlyUnits, some unit = some u := by simp
      rw [← single]
      simp only
      split
      next calendar => exact iff_of_true rfl calendar
      next fixed => exact iff_of_false nofun fixed

/-! What a compilation fails with -/

variable {setting : Setting}

theorem faultOf_resolveBound (zone : Zone) (anchor : Moment) (v : Value) (fault : CompileFault) :
    faultOf (resolveBound zone anchor v) = some fault ↔ BoundFails zone anchor v fault := by
  rw [faultOf_eq_some]
  constructor
  · intro failed
    cases v with
    | str s =>
      rw [resolveBound] at failed
      split at failed
      · cases failed
      next reason evaluated =>
        cases failed
        exact .expression evaluated
    | _ => cases failed
  · rintro ⟨evaluated⟩
    rw [resolveBound, evaluated]

theorem faultOf_resolve (zone : Zone) (anchor : Moment) (s : Span) :
    faultOf (s.resolve zone anchor) =
      s.bounds.findSome? fun v => faultOf (resolveBound zone anchor v) := by
  have optional (v : Option Value) : faultOf (resolveBound? zone anchor v) =
      v.toList.findSome? fun v => faultOf (resolveBound zone anchor v) := by
    cases v with
    | none => rfl
    | some v =>
      rw [resolveBound?, faultOf_map, Option.toList_some, List.findSome?_singleton]
  rw [Span.resolve, Span.bounds, List.findSome?_append, ← optional, ← optional]
  refine faultOf_bind fun start _ => ?_
  cases resolveBound? zone anchor s.stop <;> rfl

theorem faultOf_compileFilter (timeZone : Option String) (named : String × Query) :
    faultOf (compileFilter timeZone named) =
      (named.2.parts.findSome? Query.ownFault?).map .unsupportedQuery := by
  rw [← Query.faultOf_compile timeZone, compileFilter]
  cases named.2.compile timeZone <;> rfl

/-- The fault of an aggregation itself: that of compiling it with children that have no entries. -/
def ownFault? (setting : Setting) (a : Aggregation) : Option CompileFault :=
  faultOf (a.body.compile setting a.key >>= fun content =>
    content.entry a.key a.minDocCount (if a.children.isEmpty then none else some []))

theorem faultOf_entry_nested (content : Content) (key : String) (count : Option Int)
    (first second : Members) : faultOf (content.entry key count (some first)) =
      faultOf (content.entry key count (some second)) := by
  cases content with
  | typed => rfl
  | native body =>
    have same : faultOf (Native.nest body first) = faultOf (Native.nest body second) := by
      ext defect
      rw [faultOf_eq_some, faultOf_eq_some, Native.nest_error, Native.nest_error]
    simp only [Content.entry, faultOf_map, faultOf_mapError, same]

section OwnFault
variable (key field : String) (format own : Option String) (count : Option Int)
  (children : List Aggregation) (fault : CompileFault)

theorem ownFault?_dateHistogram (interval : String) (offset : Option String) :
    ownFault? setting (mk key (.dateHistogram field interval format offset own) count children) =
      if intervalKind? interval = none then some (.invalidInterval key interval) else none := by
  simp only [ownFault?, Aggregation.body, Body.compile]
  cases intervalKind? interval <;> rfl

theorem ownFault?_dateRanges_zone (spans : List Span) {reason : Zone.NameFault}
    (unknown : Zone.named (Context.zoneFor own setting.timeZone) = .error reason) :
    ownFault? setting (mk key (.dateRanges field spans format own) count children) =
      some (.zone ((Context.zoneFor own setting.timeZone).getD "") reason) := by
  simp only [ownFault?, Aggregation.body, Body.compile, resolveZone, unknown]
  rfl

theorem ownFault?_dateRanges (spans : List Span) {zone : Zone}
    (known : Zone.named (Context.zoneFor own setting.timeZone) = .ok zone) :
    ownFault? setting (mk key (.dateRanges field spans format own) count children) =
      (spans.flatMap Span.bounds).findSome? fun v =>
        faultOf (resolveBound zone setting.anchor v) := by
  have resolved : (spans.flatMap Span.bounds).findSome? (fun v =>
      faultOf (resolveBound zone setting.anchor v)) =
        faultOf (spans.mapM (Span.resolve zone setting.anchor)) := by
    rw [faultOf_mapM, findSome?_flatMap]
    simp only [faultOf_resolve]
  rw [resolved]
  simp only [ownFault?, Aggregation.body, compile_dateRanges _ field spans format known]
  cases spans.mapM (Span.resolve zone setting.anchor) <;> rfl

theorem ownFault?_filters (queries : List (String × Query)) :
    ownFault? setting (mk key (.filters queries) count children) =
      ((queries.flatMap fun named => named.2.parts).findSome? Query.ownFault?).map
        .unsupportedQuery := by
  have compiled : ((queries.flatMap fun named => named.2.parts).findSome? Query.ownFault?).map
      CompileFault.unsupportedQuery =
        faultOf (queries.mapM (compileFilter setting.timeZone)) := by
    rw [faultOf_mapM, findSome?_flatMap, List.map_findSome?]
    simp only [faultOf_compileFilter, Function.comp_def]
  rw [compiled]
  simp only [ownFault?, Aggregation.body, Body.compile]
  cases queries.mapM (compileFilter setting.timeZone) <;> rfl

theorem ownFault?_native (value : Value) :
    ownFault? setting (mk key (.native value) count children) =
      match Native.read value with
      | .error defect => some (.native key defect)
      | .ok body =>
        if children.isEmpty then none
        else (faultOf (Native.nest body [])).map (.nesting key) := by
  simp only [ownFault?, Aggregation.body, Body.compile]
  cases Native.read value with
  | error defect => rfl
  | ok body =>
    cases children with
    | nil => rfl
    | cons child children => exact faultOf_map.trans faultOf_mapError

end OwnFault

/-- Compiling an aggregation whose children have entries fails by the reasons listed. -/
theorem ownFault?_eq_some (a : Aggregation) (fault : CompileFault) :
    ownFault? setting a = some fault ↔ FailsWith setting a fault := by
  obtain ⟨key, body, count, children⟩ := a
  cases body with
  | dateHistogram field interval format offset own =>
    rw [ownFault?_dateHistogram]
    constructor
    · intro found
      split at found
      next multiple => exact Option.some.inj found ▸ .interval (intervalKind?_eq_none.mp multiple)
      next => cases found
    · intro failed
      cases failed with
      | interval multiple => rw [if_pos (intervalKind?_eq_none.mpr multiple)]
  | dateRanges field spans format own =>
    cases named : Zone.named (Context.zoneFor own setting.timeZone) with
    | error reason =>
      rw [ownFault?_dateRanges_zone key field format own count children spans named]
      constructor
      · intro found
        exact Option.some.inj found ▸ .zone rfl named
      · intro failed
        cases failed with
        | zone same unknown =>
          subst same
          rw [named] at unknown
          cases unknown
          rfl
        | bound known =>
          rw [named] at known
          cases known
    | ok zone =>
      rw [ownFault?_dateRanges key field format own count children spans named,
        ← firstIn_iff (faultOf_resolveBound zone setting.anchor)]
      constructor
      · exact .bound named
      · intro failed
        cases failed with
        | zone same unknown =>
          subst same
          rw [named] at unknown
          cases unknown
        | bound known first =>
          rw [named] at known
          cases known
          exact first
  | filters queries =>
    rw [ownFault?_filters, Option.map_eq_some_iff]
    constructor
    · rintro ⟨kind, found, rfl⟩
      exact .filter ((firstIn_iff Query.ownFault?_eq_some).mpr found)
    · intro failed
      cases failed with
      | filter first => exact ⟨_, (firstIn_iff Query.ownFault?_eq_some).mp first, rfl⟩
  | native value =>
    rw [ownFault?_native]
    cases read : Native.read value with
    | error defect =>
      constructor
      · intro found
        exact Option.some.inj found ▸ .native read
      · intro failed
        cases failed with
        | native unreadable =>
          rw [read] at unreadable
          cases unreadable
          rfl
        | nesting readable =>
          rw [read] at readable
          cases readable
    | ok body =>
      simp only [List.isEmpty_iff]
      constructor
      · intro found
        split at found
        · cases found
        next filled =>
          obtain ⟨defect, refused, rfl⟩ := Option.map_eq_some_iff.mp found
          exact .nesting read filled (Native.nest_error.mp (faultOf_eq_some.mp refused))
      · intro failed
        cases failed with
        | native unreadable =>
          rw [read] at unreadable
          cases unreadable
        | nesting readable filled refuses =>
          rw [read] at readable
          cases readable
          rw [if_neg filled, faultOf_eq_some.mpr (Native.nest_error.mpr refuses)]
          rfl
  | other kind =>
    constructor
    · intro found
      exact Option.some.inj found ▸ .unsupported
    · rintro ⟨⟩
      rfl
  | _ =>
    constructor
    · intro found
      cases found
    · intro failed
      cases failed

end Aggregation

end PortableSearch
