import HomeConfig.Number.Shortest
import HomeConfig.Text.Quoted

/-!
# Values exchanged with the runtime

JSON values.  An object keeps its members in the order they were written, and a number without
fraction and exponent is an integer of any size, told apart from a floating-point one.
-/

namespace HomeConfig

/-- A JSON value. -/
inductive Json
  | null
  | bool (value : Bool)
  | integer (value : Int)
  | number (value : Binary64)
  | string (value : String)
  | array (items : List Json)
  | object (members : List (String × Json))
deriving BEq

namespace Json

instance : Inhabited Json := ⟨null⟩

/-- The value of a key among the members of an object. -/
def lookup (key : String) : List (String × Json) → Option Json
  | [] => none
  | (name, value) :: rest => if name = key then some value else lookup key rest

/-- Set the value of a key: in place if the key is there, else at the end. -/
def insert (key : String) (value : Json) : List (String × Json) → List (String × Json)
  | [] => [(key, value)]
  | (name, old) :: rest =>
    if name = key then (name, value) :: rest else (name, old) :: insert key value rest

theorem lookup_insert (key other : String) (value : Json) (members : List (String × Json)) :
    lookup other (insert key value members) =
      if other = key then some value else lookup other members := by
  induction members with
  | nil =>
    by_cases same : other = key
    · simp [insert, lookup, same]
    · simp [insert, lookup, same, Ne.symm same]
  | cons head rest ih =>
    obtain ⟨name, old⟩ := head
    by_cases here : name = key
    · subst here
      by_cases same : other = name
      · simp [insert, lookup, same]
      · simp [insert, lookup, same, Ne.symm same]
    · by_cases same : name = other
      · subst same; simp [insert, lookup, here]
      · simp [insert, lookup, here, same, ih]

/-- The value of a key of an object; `none` for a missing key and for other values. -/
def get? (value : Json) (key : String) : Option Json :=
  match value with
  | object members => lookup key members
  | _ => none

/-- Whether a value counts as present: null, false, zero and everything empty do not. -/
def isTruthy : Json → Bool
  | null => false
  | bool value => value
  | integer value => value != 0
  | number value => !value.isZero
  | string value => value != ""
  | array items => !items.isEmpty
  | object members => !members.isEmpty

mutual

/-- A value as it is shown inside a list or an object: texts stand in quotes. -/
def inspect : Json → String
  | null => "None"
  | bool true => "True"
  | bool false => "False"
  | integer value => toString value
  | number value => value.toText
  | string value => Text.quotedString value
  | array items => "[" ++ ", ".intercalate (inspectItems items) ++ "]"
  | object members => "\x7b" ++ ", ".intercalate (inspectMembers members) ++ "\x7d"

/-- The items of a list, each as it is shown. -/
def inspectItems : List Json → List String
  | [] => []
  | item :: rest => inspect item :: inspectItems rest

/-- The members of an object, each as it is shown. -/
def inspectMembers : List (String × Json) → List String
  | [] => []
  | (name, value) :: rest =>
    (Text.quotedString name ++ ": " ++ inspect value) :: inspectMembers rest

end

/-- A value as it is shown by itself: a text stands for itself. -/
def display : Json → String
  | string value => value
  | other => inspect other

end Json

end HomeConfig
