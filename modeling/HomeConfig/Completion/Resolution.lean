import HomeConfig.Completion.Item
import HomeConfig.Json.Writer
import HomeConfig.Live.Query

/-!
# Documentation of completions

The documentation of an entity or a service is made when the user looks at its item.  Whatever
goes wrong on the way leaves the item as it is.
-/

namespace HomeConfig

/-- The greatest number of attributes that are shown. -/
def shownAttributes : Nat := 10

/-- A text with a line break between its lines. -/
def unlines (lines : List String) : String :=
  "\n".intercalate lines

namespace Entity

/-- Whether an attribute is only for the system itself. -/
def isInternal (name : String) : Bool :=
  name.toList.head? == some '_'

/-- A line about a property of an entity, if it has one. -/
def propertyLine (start : String) (value : Json) : List String :=
  if value.isTruthy then [start ++ value.display] else []

/-- The attributes of an entity, one line for each. -/
def attributeLines (entity : Entity) : List String :=
  let shown := entity.attributes.filter fun (name, _) => !isInternal name
  (shown.map fun (name, value) => s!"- {name}: " ++ Json.render .spaced value).take shownAttributes

/-- The documentation of an entity. -/
def documentation (entity : Entity) : String :=
  unlines <|
    ["**" ++ entity.friendlyName ++ "**", "", "**Current State:** " ++ entity.state, "",
      "- **Domain:** " ++ entity.domain] ++
    propertyLine "- **Device Class:** " entity.deviceClass ++
    propertyLine "- **Unit:** " entity.unit ++
    (if entity.attributeLines.isEmpty then []
      else ["", "**Attributes:**"] ++ entity.attributeLines)

end Entity

namespace Service

/-- How a required field is marked. -/
def requiredMark (field : ServiceField) : String :=
  if field.required then " *(required)*" else ""

/-- What a field is described as. -/
def fieldText (field : ServiceField) : String :=
  if field.description = "" then "No description" else field.description

/-- The documentation of a service. -/
def documentation (service : Service) : String :=
  unlines <|
    ["**" ++ service.fullName ++ "**"] ++
    (if service.description = "" then [] else ["", service.description]) ++
    (if service.fields.isEmpty then [] else
      ["", "**Fields:**"] ++ service.fields.map fun (name, field) =>
        "- \x60" ++ name ++ "\x60" ++ requiredMark field ++ ": " ++ fieldText field)

end Service

namespace Subject

/-- The documentation of a subject, if the subject is there. -/
def documentation? : Subject → Inquiry (Option String)
  | entity id => return (← Inquiry.currentEntity id).map Entity.documentation
  | service fullName => return (← Inquiry.service fullName).map Service.documentation

end Subject

/-- An item with the documentation of its subject. -/
def Item.resolve (item : Item) : Activity Item :=
  match item.data.bind Subject.ofData? with
  | none => return item
  | some subject => do
    match ← subject.documentation?.run with
    | .ok (some text) => return { item with documentation := some (.markdown text) }
    | .ok none => return item
    | .error cause =>
      Activity.report (.resolveFailed item.label cause)
      return item

end HomeConfig
