import PortableSearch.Settings
import PortableSearch.Settings.Kinds
import PortableSearch.Settings.Interpolation
import PortableSearch.Text.Quoted

/-! Reading settings from variables. A variable of the environment counts if it is set, be it to
blanks; otherwise the last binding of the file counts, with its references replaced. A text of
blanks leaves the setting at its default, and other texts are read without the blanks around
them. -/
namespace PortableSearch.Settings
open Shape

def ofFields (fields : Members) : Settings where
  host := fields.text "es_host"
  index := fields.text? "index"
  documentType := fields.text "document_type"
  keepAlive := fields.text "scroll_keep_alive"
  timeZone := fields.text "time_zone"
  pageSize := fields.int "page_size"
  requestTimeout := fields.double "request_timeout"
  verifyCerts := fields.flag "verify_certs"

/-- Settings from members that are read as their fields. -/
def ofMembers (ms : Members) : Checked Settings :=
  (readRecordFields .data settingsType ms).map ofFields

/-- What the names of all variables begin with. -/
def variablePrefix : String := "SEARCH_BRIDGE_"

/-- The variable of a setting. -/
def variableOf (name : String) : String :=
  variablePrefix ++ String.ofList (name.toList.map Char.toUpper)

/-- The text of the variable of that name, unless it is missing or blank. -/
def textOf? (environment : List (String × String)) (file : List (String × Option String))
    (name : String) : Option String :=
  let text := (environment.lookup name).or (EnvFile.valueOf? file name)
  (text.map Text.strip).filter fun s => !s.isEmpty

/-- The texts of the settings that have one, in declaration order. -/
def texts (environment : List (String × String)) (file : List (String × Option String)) :
    List (String × String) :=
  settingsType.fields.filterMap fun f =>
    (textOf? environment file (variableOf f.name)).map fun s => (f.name, s)

/-- A variable whose text does not write a value of its setting. -/
structure InvalidVariable where
  name : String
  text : String
deriving DecidableEq, Repr

def InvalidVariable.message (fault : InvalidVariable) : String :=
  "Invalid value for " ++ fault.name ++ ": " ++ Text.Quoted.ofText fault.text

/-- The variable of the first of some faults. -/
def firstInvalid (given : List (String × String)) (faults : List Fault) : InvalidVariable :=
  match faults with
  | ⟨.name n :: _, _⟩ :: _ => ⟨variableOf n, (given.lookup n).getD ""⟩
  | _ => ⟨variablePrefix, ""⟩

/-- Why there are no settings. -/
inductive ReadFault where
  | invalid (fault : InvalidVariable)
  /-- The file binds a variable that no environment can hold. -/
  | unsettable
deriving DecidableEq, Repr

def ReadFault.message? : ReadFault → Option String
  | invalid fault => some fault.message
  | unsettable => none

/-- The settings of an environment and the text of a file. -/
def read (environment : List (String × String)) (file : String) : Except ReadFault Settings :=
  let bindings := EnvFile.resolve environment (EnvFile.bindings file)
  if EnvFile.areSettable environment bindings then
    let given := texts environment bindings
    (ofMembers (given.map fun p => (p.1, .str p.2))).mapError fun faults =>
      .invalid (firstInvalid given faults)
  else .error .unsettable

end PortableSearch.Settings
