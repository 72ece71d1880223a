import PortableSearch.Calendar.Civil

/-! Open data: the values that a search request may carry and a reply may hold. They are the
values of JSON, with integers apart from other numbers and members in order, and in addition
bytes, moments, options of a fixed choice, and records with named fields. -/
namespace PortableSearch

/-- A value. A record has the names of its kinds from the narrowest to the widest, the names of the
fields that were given rather than filled in by default, all its fields in declaration order, and
the members that its kind does not declare and keeps nevertheless. -/
inductive Value where
  | null
  | bool (b : Bool)
  | int (n : Int)
  | float (x : Float)
  | str (s : String)
  | bytes (b : ByteArray)
  | moment (m : Calendar.Moment)
  | list (vs : List Value)
  | obj (ms : List (String × Value))
  /-- A field of a record as it stands in a list: its name and its value. -/
  | pair (name : String) (v : Value)
  /-- An option of a field: the name of the choice, the option's own name, and its text. -/
  | choice (type option text : String)
  | record (kinds : List String) (given : List String) (fields : List (String × Value))
      (others : List (String × Value))
deriving Inhabited

/-- The members of an object, in order. -/
abbrev Members := List (String × Value)

namespace Members

/-- Sets a member: in its place if the name is there already, and at the end otherwise. -/
def put (ms : Members) (name : String) (v : Value) : Members :=
  match ms with
  | [] => [(name, v)]
  | m :: rest => if m.1 = name then (name, v) :: rest else m :: put rest name v

/-- The members with other members set one after another. -/
def update (ms : Members) (more : Members) : Members :=
  more.foldl (fun acc m => acc.put m.1 m.2) ms

/-- Members in which each name stands once: at its first place, with its last value. -/
def ofList (ms : List (String × Value)) : Members := update [] ms

/-- The names, in order. -/
def names (ms : Members) : List String := ms.map Prod.fst

/-- A member's value; null where there is none. -/
def get (ms : Members) (name : String) : Value := (ms.lookup name).getD .null

/-- A member, unless it has no value. -/
def optional (name : String) : Option Value → Members
  | some v => [(name, v)]
  | none => []

/-- Without the members that are null. -/
def compact (ms : Members) : Members :=
  ms.filter fun m => match m.2 with
    | .null => false
    | _ => true

@[simp] theorem put_nil (name : String) (v : Value) : put [] name v = [(name, v)] := rfl

theorem lookup_put_self (ms : Members) (name : String) (v : Value) :
    (ms.put name v).lookup name = some v := by
  induction ms with
  | nil => simp
  | cons m rest ih =>
    obtain ⟨n, w⟩ := m
    by_cases h : n = name
    · simp [put, h]
    · have h' : (name == n) = false := by simpa using fun e => h e.symm
      simp [put, h, List.lookup_cons, h', ih]

theorem lookup_put_of_ne (ms : Members) {name other : String} (v : Value) (h : other ≠ name) :
    (ms.put name v).lookup other = ms.lookup other := by
  induction ms with
  | nil => simp [h]
  | cons m rest ih =>
    obtain ⟨n, w⟩ := m
    by_cases hn : n = name
    · have h' : (other == n) = false := by simpa [hn] using h
      have h'' : (other == name) = false := by simpa using h
      simp [put, hn, List.lookup_cons, h'']
    · simp only [put, hn, if_false, List.lookup_cons, ih]

end Members

namespace Value

/-- Null and the empty or zero value of each type count as missing where a value is optional. -/
def isMissing : Value → Bool
  | null => true
  | bool b => !b
  | int n => n == 0
  | float x => x == 0.0
  | str s => s.isEmpty
  | bytes b => b.isEmpty
  | moment _ => false
  | list vs => vs.isEmpty
  | obj ms => ms.isEmpty
  | pair .. => false
  | choice _ _ text => text.isEmpty
  | record .. => false

/-- What a message calls the type of a value. -/
def typeName : Value → String
  | null => "NoneType"
  | bool _ => "bool"
  | int _ => "int"
  | float _ => "float"
  | str _ => "str"
  | bytes _ => "bytes"
  | moment _ => "datetime"
  | list _ => "list"
  | obj _ => "dict"
  | pair .. => "tuple"
  | choice type .. => type
  | record kinds .. => kinds.headD ""

/-- Null for no value. -/
def ofOption {α : Type} (f : α → Value) : Option α → Value
  | some a => f a
  | none => null

/-- The text of a string value or of an option. -/
def text? : Value → Option String
  | str s => some s
  | choice _ _ text => some text
  | _ => none

/-- The members of an object. -/
def members? : Value → Option Members
  | obj ms => some ms
  | _ => none

/-- The items of a list; other values have none. -/
def items : Value → List Value
  | list vs => vs
  | _ => []

/-- The number of an integer value. -/
def int? : Value → Option Int
  | int n => some n
  | _ => none

def float? : Value → Option Float
  | float x => some x
  | _ => none

def bool? : Value → Option Bool
  | bool b => some b
  | _ => none

def moment? : Value → Option Calendar.Moment
  | moment m => some m
  | _ => none

/-- A value that is present: null stands for none. -/
def present? : Value → Option Value
  | null => none
  | v => some v

/-- The fields of a record or the members of an object; other values have none. -/
def fields : Value → Members
  | record _ _ fs _ => fs
  | obj ms => ms
  | _ => []

mutual

/-- How deep lists and objects are nested; a value that holds none has depth zero. -/
def depth : Value → Nat
  | list vs => depthOfItems vs + 1
  | obj ms => depthOfMembers ms + 1
  | pair _ v => depth v + 1
  | record _ _ fields others => max (depthOfMembers fields) (depthOfMembers others) + 1
  | _ => 0

def depthOfItems : List Value → Nat
  | [] => 0
  | v :: vs => max (depth v) (depthOfItems vs)

def depthOfMembers : List (String × Value) → Nat
  | [] => 0
  | (_, v) :: ms => max (depth v) (depthOfMembers ms)

end

mutual

/-- The value with each name of an object standing once, however deep the object lies. -/
def distinct : Value → Value
  | list vs => list (distinctItems vs)
  | obj ms => obj (Members.ofList (distinctMembers ms))
  | v => v

def distinctItems : List Value → List Value
  | [] => []
  | v :: vs => distinct v :: distinctItems vs

def distinctMembers : List (String × Value) → List (String × Value)
  | [] => []
  | (n, v) :: ms => (n, distinct v) :: distinctMembers ms

end

end Value

namespace Members

/-- The text of a member that has one; empty for others. -/
def text (ms : Members) (name : String) : String := (ms.get name).text?.getD ""

def text? (ms : Members) (name : String) : Option String := (ms.get name).text?

/-- The number of a member that has one; zero for others. -/
def double (ms : Members) (name : String) : Float := (ms.get name).float?.getD 0.0

def double? (ms : Members) (name : String) : Option Float := (ms.get name).float?

def int (ms : Members) (name : String) : Int := (ms.get name).int?.getD 0

def int? (ms : Members) (name : String) : Option Int := (ms.get name).int?

def flag (ms : Members) (name : String) : Bool := (ms.get name).bool?.getD false

def items (ms : Members) (name : String) : List Value := (ms.get name).items

end Members

end PortableSearch
