import HomeConfig.Json.Basic
import HomeConfig.Text.Position

/-!
# Completion items

What the editor shows in a list of completions and inserts when one is chosen.

An item for an entity or a service carries a payload that names it, so that its documentation can
be made later, when the user looks at it (`Subject`).
-/

namespace HomeConfig

/-- What a completion stands for. -/
inductive Item.Kind
  | text
  | method
  | function
  | constructor
  | field
  | variable
  | classType
  | interface
  | module
  | property
  | unit
  | value
  | enumeration
  | keyword
  | snippet
  | color
  | file
  | reference
  | folder
  | enumMember
  | constant
  | record
  | event
  | operator
  | typeParameter
deriving DecidableEq, Repr

/-- The documentation of an item. -/
inductive Documentation
  | plain (text : String)
  | markdown (text : String)
deriving DecidableEq, Repr

/-- A replacement of a range of a document. -/
structure Edit where
  range : Range
  newText : String
deriving DecidableEq, Repr

/-- A completion. -/
structure Item where
  label : String
  kind : Option Item.Kind := none
  detail : Option String := none
  documentation : Option Documentation := none
  /-- What the item is sorted by, instead of its label. -/
  sortText : Option String := none
  /-- What is inserted, instead of the label. -/
  insertText : Option String := none
  /-- Whether the inserted text has places to fill in. -/
  isSnippet : Option Bool := none
  edit : Option Edit := none
  data : Option Json := none
deriving BEq

/-- What an item can be about. -/
inductive Subject
  | entity (id : String)
  | service (fullName : String)
deriving DecidableEq, Repr

namespace Subject

/-- The payload that names a subject. -/
def data : Subject → Json
  | entity id => .object [("type", .string "entity"), ("entity_id", .string id)]
  | service fullName => .object [("type", .string "service"), ("service", .string fullName)]

/-- The subject that a payload names. -/
def ofData? (data : Json) : Option Subject :=
  let name (key : String) : String := ((data.get? key).getD (.string "")).display
  match data.get? "type" with
  | some (.string type) =>
    if type = "entity" then some (entity (name "entity_id"))
    else if type = "service" then some (service (name "service"))
    else none
  | _ => none

theorem ofData?_data (subject : Subject) : ofData? subject.data = some subject := by
  cases subject <;> rfl

end Subject

end HomeConfig
