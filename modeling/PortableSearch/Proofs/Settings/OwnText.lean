import PortableSearch.Settings.Read
import PortableSearch.Proofs.Shape.Offences
import Mathlib.Data.List.TakeWhile

/-! Settings are resolved field by field. What a setting is depends on the text of its own variable
alone: the value that the environment has for it, or else what the file binds it to. Where some
texts do not write a value of their setting, the first of these settings is named. Before that a
file is refused that binds a variable which no environment can hold. -/
namespace PortableSearch.Settings
open Shape

/-- What a file binds: its bindings in order, their references replaced. -/
def boundBy (environment : List (String × String)) (file : String) :
    List (String × Option String) :=
  EnvFile.resolve environment (EnvFile.bindings file)

/-- The text of a variable: its value in the environment if it is set there, and otherwise what a
file binds it to. -/
def writtenIn (environment : List (String × String)) (bindings : List (String × Option String))
    (name : String) : Option String :=
  (environment.lookup name).or (EnvFile.valueOf? bindings name)

/-- A text without the blanks around it, unless there is nothing else in it. -/
def content? (text : Option String) : Option String :=
  text.bind fun s => if s.toList.all Text.isBlank then none else some (Text.strip s)

/-- What a setting is by the text of its variable: its default if the text is missing or blank, and
otherwise what the text says without the blanks around it. -/
def resolved {α : Type} (preset : α) (read : String → Except Defect α) (text : Option String) :
    Except Defect α :=
  (content? text).elim (.ok preset) read

/-- Settings that are, each by itself, what the text of their variable says. -/
structure Resolves (text : String → Option String) (s : Settings) : Prop where
  host : resolved "http://localhost:9200" .ok (text "SEARCH_BRIDGE_ES_HOST") = .ok s.host
  index : resolved none (fun t => .ok (some t)) (text "SEARCH_BRIDGE_INDEX") = .ok s.index
  documentType : resolved "_doc" .ok (text "SEARCH_BRIDGE_DOCUMENT_TYPE") = .ok s.documentType
  keepAlive : resolved "1m" .ok (text "SEARCH_BRIDGE_SCROLL_KEEP_ALIVE") = .ok s.keepAlive
  timeZone : resolved "UTC" .ok (text "SEARCH_BRIDGE_TIME_ZONE") = .ok s.timeZone
  pageSize : resolved 50 (fun t => readInteger (.str t)) (text "SEARCH_BRIDGE_PAGE_SIZE") =
    .ok s.pageSize
  requestTimeout : resolved 30.0 (fun t => readDouble .data (.str t))
    (text "SEARCH_BRIDGE_REQUEST_TIMEOUT") = .ok s.requestTimeout
  verifyCerts : resolved true (fun t => readFlag .data (.str t))
    (text "SEARCH_BRIDGE_VERIFY_CERTS") = .ok s.verifyCerts

/-- Settings as the members of a record, each under the name of its field. -/
def members (s : Settings) : Members :=
  [("es_host", .str s.host), ("index", (s.index.map .str).getD .null),
    ("document_type", .str s.documentType), ("scroll_keep_alive", .str s.keepAlive),
    ("time_zone", .str s.timeZone), ("page_size", .int s.pageSize),
    ("request_timeout", .float s.requestTimeout), ("verify_certs", .bool s.verifyCerts)]

/-- The text of a setting is not blank and does not write a value of the setting's type. -/
def Misfits (text : String → Option String) (f : FieldSpec FieldType) (fault : InvalidVariable) :
    Prop :=
  ∃ t, content? (text (variableOf f.name)) = some t ∧
    (∃ faults, f.type.read .data (.str t) = .error faults) ∧ fault = ⟨variableOf f.name, t⟩

/-- A file binds a variable that is not set to a value, and no environment can hold the two: the
character NUL is in one of them, or an equals sign in the name. -/
def BindsUnsettable (environment : List (String × String))
    (bindings : List (String × Option String)) : Prop :=
  ∃ name value, environment.lookup name = none ∧ EnvFile.valueOf? bindings name = some value ∧
    (Char.ofNat 0 ∈ name.toList ∨ Char.ofNat 0 ∈ value.toList ∨ '=' ∈ name.toList)

variable {environment : List (String × String)} {bindings : List (String × Option String)}
  {f : FieldSpec FieldType}

/-! The texts of settings -/

/-- Trimming leaves nothing of what is to be dropped throughout, and only of that. -/
theorem trimEnds_eq_nil {drop : Char → Bool} {cs : List Char} :
    Text.trimEnds drop cs = [] ↔ ∀ c ∈ cs, drop c = true := by
  rw [Text.trimEnds, List.reverse_eq_nil_iff, List.dropWhile_eq_nil_iff]
  simp only [List.mem_reverse]
  constructor
  · intro each
    rw [← List.dropWhile_eq_nil_iff]
    cases rest : cs.dropWhile drop with
    | nil => rfl
    | cons c tail =>
      have kept := List.head?_dropWhile_not drop cs
      rw [rest] at each kept
      have dropped := each c List.mem_cons_self
      rw [List.head?_cons] at kept
      rw [kept] at dropped
      cases dropped
  · intro each c inside
    exact each c (List.dropWhile_subset drop inside)

theorem strip_isEmpty (s : String) : (Text.strip s).isEmpty = s.toList.all Text.isBlank := by
  rw [Bool.eq_iff_iff, String.isEmpty_iff, List.all_eq_true, ← trimEnds_eq_nil, Text.strip,
    ← String.toList_inj, String.toList_ofList, String.toList_empty]

theorem textOf?_eq (name : String) :
    textOf? environment bindings name = content? (writtenIn environment bindings name) := by
  rw [textOf?, content?, writtenIn]
  cases (environment.lookup name).or (EnvFile.valueOf? bindings name) with
  | none => rfl
  | some s =>
    rw [Option.map_some, Option.bind_some, Option.filter_some, strip_isEmpty]
    cases s.toList.all Text.isBlank <;> rfl

/-- Of texts that are given under the names of some fields, each is found under its own. -/
theorem lookup_filterMap {fields : List (FieldSpec FieldType)}
    (given : FieldSpec FieldType → Option String) (distinct : (fields.map FieldSpec.name).Nodup)
    (inside : f ∈ fields) :
    (fields.filterMap fun f => (given f).map fun s => (f.name, s)).lookup f.name = given f := by
  induction fields with
  | nil => cases inside
  | cons g fields ih =>
    obtain ⟨fresh, distinct⟩ := List.nodup_cons.mp distinct
    rw [List.filterMap_cons]
    rcases List.mem_cons.mp inside with rfl | later
    · cases given f with
      | some s => exact List.lookup_cons_self
      | none =>
        refine List.lookup_eq_none_iff.mpr fun p there => ?_
        obtain ⟨other, within, own⟩ := List.mem_filterMap.mp there
        obtain ⟨s, -, rfl⟩ := Option.map_eq_some_iff.mp own
        have different : f.name ≠ other.name := fun same =>
          fresh (same ▸ List.mem_map_of_mem within)
        simpa using different
    · have different : f.name ≠ g.name := fun same => fresh (same ▸ List.mem_map_of_mem later)
      cases given g with
      | none => exact ih distinct later
      | some s =>
        have skipped : (f.name == g.name) = false := beq_eq_false_iff_ne.mpr different
        rw [Option.map_some, List.lookup_cons, skipped]
        exact ih distinct later

/-- The members that settings are read from. -/
def given (environment : List (String × String)) (bindings : List (String × Option String)) :
    Members :=
  (texts environment bindings).map fun p => (p.1, .str p.2)

theorem lookup_str (ps : List (String × String)) (name : String) :
    (ps.map fun p => (p.1, Value.str p.2)).lookup name = (ps.lookup name).map .str := by
  induction ps with
  | nil => rfl
  | cons p ps ih =>
    rw [List.map_cons, List.lookup_cons, List.lookup_cons, ih]
    cases name == p.1 <;> rfl

theorem names_nodup : (settingsType.fields.map FieldSpec.name).Nodup := by decide

/-- The member of a setting is the text of its variable, and no other text. -/
theorem lookup_texts (inside : f ∈ settingsType.fields) :
    (texts environment bindings).lookup f.name =
      content? (writtenIn environment bindings (variableOf f.name)) := by
  rw [← textOf?_eq]
  exact lookup_filterMap (fun f => textOf? environment bindings (variableOf f.name)) names_nodup
    inside

theorem outerName_eq (inside : f ∈ settingsType.fields) : f.outerName = f.name := by
  revert f
  decide

theorem foundIn_given (inside : f ∈ settingsType.fields) :
    f.foundIn (given environment bindings) =
      (content? (writtenIn environment bindings (variableOf f.name))).map
        fun t => (f.name, .str t) := by
  have own : (given environment bindings).lookup f.name =
      (content? (writtenIn environment bindings (variableOf f.name))).map .str := by
    rw [given, lookup_str, lookup_texts inside]
  rw [FieldSpec.foundIn, outerName_eq inside, own, Option.or_self, Option.map_map]
  rfl

theorem valueIn_given (inside : f ∈ settingsType.fields) :
    f.valueIn (given environment bindings) =
      (content? (writtenIn environment bindings (variableOf f.name))).map .str := by
  rw [FieldSpec.valueIn, outerName_eq inside, given, lookup_str, lookup_texts inside,
    Option.or_self]

/-! Settings that are read -/

/-- A type of settings: how a text is read, and the values that are read at the type of a field. -/
structure Form (α : Type) where
  type : FieldType
  read : String → Except Defect α
  write : α → Value
  back : Value → α
  reads : ∀ s, type.read .data (.str s) = .ofExcept ((read s).map write)
  back_write : ∀ a, back (write a) = a

namespace Form

def text : Form String where
  type := .text
  read := .ok
  write := .str
  back v := v.text?.getD ""
  reads s := by
    rw [FieldType.read]
    rfl
  back_write _ := rfl

def optionalText : Form (Option String) where
  type := .nullable .text
  read s := .ok (some s)
  write t := (t.map .str).getD .null
  back := Value.text?
  reads s := by
    rw [FieldType.read, FieldType.read]
    · rfl
    · simp
  back_write t := by cases t <;> rfl

def integer : Form Int where
  type := .integer
  read s := readInteger (.str s)
  write := .int
  back v := v.int?.getD 0
  reads s := by rw [FieldType.read]
  back_write _ := rfl

def double : Form Float where
  type := .double
  read s := readDouble .data (.str s)
  write := .float
  back v := v.float?.getD 0.0
  reads s := by rw [FieldType.read]
  back_write _ := rfl

def flag : Form Bool where
  type := .flag
  read s := readFlag .data (.str s)
  write := .bool
  back v := v.bool?.getD false
  reads s := by rw [FieldType.read]
  back_write _ := rfl

end Form

/-- A setting: its field, its variable, its type and its default. -/
structure Setting (α : Type) where
  field : String
  name : String
  form : Form α
  preset : α
  inside : .preset field form.type (form.write preset) ∈ settingsType.fields
  named : variableOf field = name

namespace Setting

def host : Setting String :=
  ⟨"es_host", "SEARCH_BRIDGE_ES_HOST", .text, "http://localhost:9200", .head _, by decide⟩

def index : Setting (Option String) :=
  ⟨"index", "SEARCH_BRIDGE_INDEX", .optionalText, none, .tail _ (.head _), by decide⟩

def documentType : Setting String :=
  ⟨"document_type", "SEARCH_BRIDGE_DOCUMENT_TYPE", .text, "_doc",
    by simp [settingsType, Form.text], by decide⟩

def keepAlive : Setting String :=
  ⟨"scroll_keep_alive", "SEARCH_BRIDGE_SCROLL_KEEP_ALIVE", .text, "1m",
    by simp [settingsType, Form.text], by decide⟩

def timeZone : Setting String :=
  ⟨"time_zone", "SEARCH_BRIDGE_TIME_ZONE", .text, "UTC",
    by simp [settingsType, Form.text], by decide⟩

def pageSize : Setting Int :=
  ⟨"page_size", "SEARCH_BRIDGE_PAGE_SIZE", .integer, 50,
    by simp [settingsType, Form.integer], by decide⟩

def requestTimeout : Setting Float :=
  ⟨"request_timeout", "SEARCH_BRIDGE_REQUEST_TIMEOUT", .double, 30.0,
    by simp [settingsType, Form.double], by decide⟩

def verifyCerts : Setting Bool :=
  ⟨"verify_certs", "SEARCH_BRIDGE_VERIFY_CERTS", .flag, true,
    by simp [settingsType, Form.flag], by decide⟩

variable {α : Type} (s : Setting α) {out : Members} {w : Value}

def spec : FieldSpec FieldType := .preset s.field s.form.type (s.form.write s.preset)

/-- A setting is read as its default, or as what the text of its variable says. -/
theorem readsAs : s.spec.ReadsAs .data (given environment bindings) w ↔
    ∃ a, resolved s.preset s.form.read (writtenIn environment bindings s.name) = .ok a ∧
      s.form.write a = w := by
  have value : s.spec.valueIn (given environment bindings) =
      (content? (writtenIn environment bindings (variableOf s.field))).map .str :=
    valueIn_given s.inside
  rw [FieldSpec.ReadsAs, value, spec, ← s.named, resolved]
  simp only [FieldSpec.preset]
  cases content? (writtenIn environment bindings (variableOf s.field)) with
  | none => simp
  | some t =>
    simp only [Option.map_some, s.form.reads, Option.elim_some]
    cases s.form.read t <;> simp [Checked.ofExcept, Except.map]

theorem resolved_get
    (read : readFields .data settingsType.fields (given environment bindings) = .ok out) :
    resolved s.preset s.form.read (writtenIn environment bindings s.name) =
      .ok (s.form.back (out.get s.field)) := by
  obtain ⟨a, own, found⟩ := s.readsAs.mp (readFields_get names_nodup read s.inside)
  change s.form.write a = out.get s.field at found
  rw [own, ← found, s.form.back_write]

theorem requestTimeout_resolved (t : Option String) :
    resolved requestTimeout.preset requestTimeout.form.read t =
      resolved 30.0 (fun t => readDouble .data (.str t)) t := by
  simp only [requestTimeout, Form.double]

end Setting

theorem ofFields_members (s : Settings) : ofFields s.members = s := by
  obtain ⟨_, index, _, _, _, _, _, _⟩ := s
  cases index <;> rfl

theorem resolves_of_read {out : Members}
    (read : readFields .data settingsType.fields (given environment bindings) = .ok out) :
    Resolves (writtenIn environment bindings) (ofFields out) where
  host := Setting.host.resolved_get read
  index := Setting.index.resolved_get read
  documentType := Setting.documentType.resolved_get read
  keepAlive := Setting.keepAlive.resolved_get read
  timeZone := Setting.timeZone.resolved_get read
  pageSize := Setting.pageSize.resolved_get read
  requestTimeout := by
    rw [← Setting.requestTimeout_resolved]
    exact Setting.requestTimeout.resolved_get read
  verifyCerts := Setting.verifyCerts.resolved_get read

theorem read_of_resolves {s : Settings} (own : Resolves (writtenIn environment bindings) s) :
    readFields .data settingsType.fields (given environment bindings) = .ok s.members := by
  have requestTimeout := own.requestTimeout
  rw [← Setting.requestTimeout_resolved] at requestTimeout
  refine readFields_ok.mpr ?_
  exact .cons ⟨rfl, Setting.host.readsAs.mpr ⟨_, own.host, rfl⟩⟩ <|
    .cons ⟨rfl, Setting.index.readsAs.mpr ⟨_, own.index, rfl⟩⟩ <|
    .cons ⟨rfl, Setting.documentType.readsAs.mpr ⟨_, own.documentType, rfl⟩⟩ <|
    .cons ⟨rfl, Setting.keepAlive.readsAs.mpr ⟨_, own.keepAlive, rfl⟩⟩ <|
    .cons ⟨rfl, Setting.timeZone.readsAs.mpr ⟨_, own.timeZone, rfl⟩⟩ <|
    .cons ⟨rfl, Setting.pageSize.readsAs.mpr ⟨_, own.pageSize, rfl⟩⟩ <|
    .cons ⟨rfl, Setting.requestTimeout.readsAs.mpr ⟨_, requestTimeout, rfl⟩⟩ <|
    .cons ⟨rfl, Setting.verifyCerts.readsAs.mpr ⟨_, own.verifyCerts, rfl⟩⟩ .nil

theorem ofMembers_given_ok {s : Settings} : ofMembers (given environment bindings) = .ok s ↔
    Resolves (writtenIn environment bindings) s := by
  rw [ofMembers, map_ok]
  constructor
  · rintro ⟨out, read, rfl⟩
    exact resolves_of_read read
  · intro own
    exact ⟨s.members, read_of_resolves own, ofFields_members s⟩

/-- A setting is the same wherever the text of its variable is the same. -/
theorem get_members_congr {environment' : List (String × String)}
    {bindings' : List (String × Option String)} {s s' : Settings}
    (own : Resolves (writtenIn environment bindings) s)
    (own' : Resolves (writtenIn environment' bindings') s') (inside : f ∈ settingsType.fields)
    (same : writtenIn environment bindings (variableOf f.name) =
      writtenIn environment' bindings' (variableOf f.name)) :
    s.members.get f.name = s'.members.get f.name := by
  have reads := readFields_get names_nodup (read_of_resolves own) inside
  have reads' := readFields_get names_nodup (read_of_resolves own') inside
  rw [FieldSpec.ReadsAs, valueIn_given inside] at reads reads'
  rw [same] at reads
  cases found : content? (writtenIn environment' bindings' (variableOf f.name)) with
  | none =>
    rw [found] at reads reads'
    exact Option.some.inj (reads.symm.trans reads')
  | some t =>
    rw [found] at reads reads'
    exact Except.ok.inj (reads.symm.trans reads')

/-! Settings that cannot be read -/

/-- The variable that is named for a setting whose text writes no value. -/
def misfit? (text : String → Option String) (f : FieldSpec FieldType) : Option InvalidVariable :=
  (content? (text (variableOf f.name))).bind fun t =>
    (faultOf (f.type.read .data (.str t))).map fun _ => ⟨variableOf f.name, t⟩

theorem misfit?_eq_some {text : String → Option String} {fault : InvalidVariable} :
    misfit? text f = some fault ↔ Misfits text f fault := by
  simp only [misfit?, Misfits, Option.bind_eq_some_iff, Option.map_eq_some_iff, faultOf_eq_some]
  constructor
  · rintro ⟨t, found, faults, refused, rfl⟩
    exact ⟨t, found, ⟨faults, refused⟩, rfl⟩
  · rintro ⟨t, found, ⟨faults, refused⟩, rfl⟩
    exact ⟨t, found, faults, refused, rfl⟩

/-- The first fault of a record is the first fault of the first field that has one. -/
theorem head_faults_readFields {β : Type} {ms : Members} {fields : List (FieldSpec FieldType)}
    {tell : Fault → β} {first : FieldSpec FieldType → Option β}
    (each : ∀ f ∈ fields, (readField .data f ms).faults.head?.map tell = first f) :
    (readFields .data fields ms).faults.head?.map tell = fields.findSome? first := by
  induction fields with
  | nil => rfl
  | cons f fields ih =>
    obtain ⟨own, others⟩ := List.forall_mem_cons.mp each
    rw [readFields, Checked.faults_map, Checked.faults_both, List.head?_append, List.findSome?_cons,
      ← own, ← ih others]
    cases (readField .data f ms).faults.head? <;> rfl

/-- Only the first fault counts for the variable that is named. -/
theorem firstInvalid_head {given : List (String × String)} {faults : List Fault} {fault : Fault}
    (first : faults.head? = some fault) :
    firstInvalid given faults = firstInvalid given [fault] := by
  cases faults with
  | nil => cases first
  | cons g faults =>
    obtain rfl := Option.some.inj first
    obtain ⟨path, defect⟩ := g
    cases path with
    | nil => rfl
    | cons step path => cases step <;> rfl

theorem head_fault_readField (inside : f ∈ settingsType.fields) :
    ((readField .data f (given environment bindings)).faults.head?.map fun fault =>
        firstInvalid (texts environment bindings) [fault]) =
      misfit? (writtenIn environment bindings) f := by
  have text : (texts environment bindings).lookup f.name =
      content? (writtenIn environment bindings (variableOf f.name)) := lookup_texts inside
  rw [readField_eq_foundIn, foundIn_given inside, misfit?]
  cases found : content? (writtenIn environment bindings (variableOf f.name)) with
  | none =>
    have preset : f.fallback.isSome = true := by
      clear found text
      revert f
      decide
    obtain ⟨v, preset⟩ := Option.isSome_iff_exists.mp preset
    simp only [Option.map_none, preset, Option.elim_some, Option.bind_none]
    rfl
  | some t =>
    rw [found] at text
    simp only [Option.map_some, Checked.faults_map, Checked.faults_within, List.head?_map,
      Option.bind_some]
    cases read : f.type.read .data (.str t) with
    | ok w => rfl
    | error faults =>
      have some : faults ≠ [] := (read_tells f.type (.str t)).2 faults read
      obtain ⟨fault, rest, rfl⟩ := List.exists_cons_of_ne_nil some
      simp only [Checked.faults, List.head?_cons, Option.map_some, faultOf, Fault.under,
        firstInvalid, text, Option.getD_some]

/-- Where settings cannot be read, the first of those whose text writes no value is named. -/
theorem ofMembers_given_error {fault : InvalidVariable} :
    (∃ faults, ofMembers (given environment bindings) = .error faults ∧
        firstInvalid (texts environment bindings) faults = fault) ↔
      FirstIn (Misfits (writtenIn environment bindings)) settingsType.fields fault := by
  have told := (record_tells settingsType (given environment bindings)).2
  have same : readRecordFields .data settingsType (given environment bindings) =
      readFields .data settingsType.fields (given environment bindings) := rfl
  have first : ((readFields .data settingsType.fields (given environment bindings)).faults.head?.map
      fun fault => firstInvalid (texts environment bindings) [fault]) =
        settingsType.fields.findSome? (misfit? (writtenIn environment bindings)) :=
    head_faults_readFields fun f inside => head_fault_readField inside
  rw [firstIn_iff fun _ _ => misfit?_eq_some, ← first, ofMembers, same]
  rw [same] at told
  cases read : readFields .data settingsType.fields (given environment bindings) with
  | ok out => simp [Checked.faults, Except.map]
  | error faults =>
    obtain ⟨first, rest, rfl⟩ := List.exists_cons_of_ne_nil (told faults read)
    rw [Option.map_eq_some_iff]
    constructor
    · rintro ⟨faults, failed, rfl⟩
      cases failed
      exact ⟨first, rfl, (firstInvalid_head rfl).symm⟩
    · rintro ⟨fault, head, rfl⟩
      cases head
      exact ⟨first :: rest, rfl, firstInvalid_head rfl⟩

/-! Files that cannot be put into an environment -/

theorem not_isSettable {name value : String} : ¬ EnvFile.isSettable name value = true ↔
    Char.ofNat 0 ∈ name.toList ∨ Char.ofNat 0 ∈ value.toList ∨ '=' ∈ name.toList := by
  rw [EnvFile.isSettable, Bool.and_eq_true, not_and_or]
  simp only [Bool.not_eq_true', List.contains_eq_mem, List.mem_append, decide_eq_false_iff_not,
    Decidable.not_not, or_assoc]

/-- Each name that a file binds to a value stands in one of its bindings. -/
theorem mem_of_valueOf? {name value : String}
    (found : EnvFile.valueOf? bindings name = some value) : ∃ b ∈ bindings, b.1 = name := by
  rw [EnvFile.valueOf?, Option.join_eq_some_iff] at found
  obtain ⟨before, after, same, -⟩ := List.lookup_eq_some_iff.mp found
  have there : (name, some value) ∈ bindings.reverse := by simp [same]
  exact ⟨_, List.mem_reverse.mp there, rfl⟩

theorem areSettable_iff : EnvFile.areSettable environment bindings = true ↔
    ¬ BindsUnsettable environment bindings := by
  rw [EnvFile.areSettable, List.all_eq_true]
  constructor
  · rintro each ⟨name, value, unset, found, unsettable⟩
    obtain ⟨b, inside, rfl⟩ := mem_of_valueOf? found
    have settable := each b inside
    rw [unset, found] at settable
    exact not_isSettable.mpr unsettable settable
  · intro none b inside
    by_contra unsettable
    rw [Bool.or_eq_true, not_or, Option.not_isSome_iff_eq_none] at unsettable
    obtain ⟨unset, refused⟩ := unsettable
    cases found : EnvFile.valueOf? bindings b.1 with
    | none =>
      rw [found] at refused
      exact refused rfl
    | some value =>
      rw [found] at refused
      exact none ⟨b.1, value, unset, found, not_isSettable.mp refused⟩

variable {file : String}

theorem read_of_unsettable (refused : BindsUnsettable environment (boundBy environment file)) :
    read environment file = .error .unsettable := by
  rw [read]
  exact if_neg fun settable => areSettable_iff.mp settable refused

theorem read_of_settable (settable : ¬ BindsUnsettable environment (boundBy environment file)) :
    read environment file =
      (ofMembers (given environment (boundBy environment file))).mapError fun faults =>
        .invalid (firstInvalid (texts environment (boundBy environment file)) faults) := by
  rw [read]
  exact if_pos (areSettable_iff.mpr settable)

theorem read_unsettable_iff : read environment file = .error .unsettable ↔
    BindsUnsettable environment (boundBy environment file) := by
  refine ⟨fun failed => ?_, read_of_unsettable⟩
  by_contra settable
  rw [read_of_settable settable] at failed
  generalize ofMembers _ = outcome at failed
  cases outcome <;> cases failed

theorem read_ok_iff {s : Settings} : read environment file = .ok s ↔
    ¬ BindsUnsettable environment (boundBy environment file) ∧
      Resolves (writtenIn environment (boundBy environment file)) s := by
  by_cases refused : BindsUnsettable environment (boundBy environment file)
  · rw [read_of_unsettable refused]
    exact ⟨nofun, fun own => absurd refused own.1⟩
  · rw [read_of_settable refused, mapError_ok, ofMembers_given_ok, and_iff_right refused]

theorem read_invalid_iff {fault : InvalidVariable} :
    read environment file = .error (.invalid fault) ↔
      ¬ BindsUnsettable environment (boundBy environment file) ∧
        FirstIn (Misfits (writtenIn environment (boundBy environment file)))
          settingsType.fields fault := by
  by_cases refused : BindsUnsettable environment (boundBy environment file)
  · rw [read_of_unsettable refused]
    exact ⟨nofun, fun own => absurd refused own.1⟩
  · rw [read_of_settable refused, and_iff_right refused, ← ofMembers_given_error]
    generalize ofMembers _ = outcome
    cases outcome <;> simp [Except.mapError]

/-- Each setting is its default if the text of its variable is missing or blank, and otherwise what
the text says. Where some texts say nothing, the first of these settings is named with its text. No
other variable counts, and no other text, except that a file is refused that binds a variable which
no environment can hold. -/
theorem read_resolves (environment : List (String × String)) (file : String) :
    let bindings := boundBy environment file
    let text := writtenIn environment bindings
    (∀ s, read environment file = .ok s ↔
      ¬ BindsUnsettable environment bindings ∧ Resolves text s) ∧
    (∀ fault, read environment file = .error (.invalid fault) ↔
      ¬ BindsUnsettable environment bindings ∧
        FirstIn (Misfits text) settingsType.fields fault) ∧
    (read environment file = .error .unsettable ↔ BindsUnsettable environment bindings) ∧
    ∀ environment' file' s s', read environment file = .ok s → read environment' file' = .ok s' →
      ∀ f ∈ settingsType.fields,
        text (variableOf f.name) =
          writtenIn environment' (boundBy environment' file') (variableOf f.name) →
        s.members.get f.name = s'.members.get f.name := by
  intro bindings text
  refine ⟨fun s => read_ok_iff, fun fault => read_invalid_iff, read_unsettable_iff, ?_⟩
  intro environment' file' s s' own own' f inside same
  obtain ⟨-, own⟩ := read_ok_iff.mp own
  obtain ⟨-, own'⟩ := read_ok_iff.mp own'
  exact get_members_congr own own' inside same

/-- A file that binds a name with the character NUL in it is refused, though no setting has a
text. -/
theorem nul_name_refused :
    Resolves (writtenIn [] (boundBy [] "X\u0000=1\n"))
        ⟨"http://localhost:9200", none, "_doc", "1m", "UTC", 50, 30.0, true⟩ ∧
      read [] "X\u0000=1\n" = .error .unsettable := by
  have bound : boundBy [] "X\u0000=1\n" = [("X\u0000", some "1")] := by decide +kernel
  constructor
  · rw [bound]
    constructor <;> rfl
  · refine read_of_unsettable ?_
    rw [bound]
    exact ⟨"X\u0000", "1", rfl, rfl, .inl (by decide)⟩

end PortableSearch.Settings
