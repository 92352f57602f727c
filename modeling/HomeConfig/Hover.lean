import HomeConfig.Completion.Resolution
import HomeConfig.Document.Template
import HomeConfig.Text.Token
import HomeConfig.Text.Word

/-!
# Hovering

What is shown when the pointer rests on a place of a document.  A dotted name is an entity, or a
service when its line has a key for services.  Anywhere else inside a template the expression is
rendered and its result shown.  Without a connection nothing is shown.
-/

namespace HomeConfig

/-- What is shown for a place, as markdown, and the range that it is about. -/
structure Hover where
  text : String
  range : Option Range
deriving DecidableEq, Repr

/-- What a place is about. -/
inductive HoverTarget
  | nothing
  | entity (id : String) (range : Range)
  | service (fullName : String) (range : Range)
  | template (source : String)
deriving DecidableEq, Repr

namespace HoverTarget

open Recogniser

/-- Whether a token is a domain and a name with one dot between them. -/
def isDottedName (token : Text) : Bool :=
  match Text.cut '.' token with
  | (domain, some name) =>
    !domain.isEmpty && domain.all Text.isNameLetter && !name.isEmpty && name.all Text.isNameChar
  | (_, none) => false

/-- A key whose value is a service. -/
def serviceKey (before : Option Char) : Recogniser Unit := do
  require (Text.wordMayStart before)
  firstOf [literal "service:".toList, literal "action:".toList]

/-- Whether a line has a key whose value is a service. -/
def callsService (line : Text) : Bool :=
  (Text.search serviceKey line).isSome

/-- What the place at a position is about. -/
def find (text : Text) (position : Position) : HoverTarget :=
  if (Text.lines text).length ≤ position.line then nothing
  else
    let offset := position.toOffset text
    let token? := (Text.tokenSpan text offset).filter fun (start, stop) =>
      isDottedName ((text.take stop).drop start)
    match token? with
    | some (start, stop) =>
      let name := String.ofList ((text.take stop).drop start)
      let range := Range.ofOffsets text start stop
      if callsService (Text.lineAt text position.line) then service name range
      else entity name range
    | none =>
      match Document.enclosingTemplate text offset with
      | some source => template (String.ofList source)
      | none => nothing

end HoverTarget

namespace Hover

/-! ## Entities -/

/-- The greatest length of the value of an attribute. -/
def valueLimit : Nat := 50

/-- The value of an attribute, shortened when it is long. -/
def attributeText (value : Json) : String :=
  let text := match value with
    | .array _ | .object _ => Json.render .spaced value
    | other => other.display
  let chars := text.toList
  if valueLimit < chars.length then String.ofList (chars.take valueLimit) ++ "..." else text

/-- The rows of the table of attributes. -/
def attributeRows (entity : Entity) : List String :=
  let shown := entity.attributes.filter fun (name, _) =>
    !Entity.isInternal name && name != "friendly_name"
  (shown.map fun (name, value) => s!"| {name} | " ++ attributeText value ++ " |").take
    shownAttributes

/-- A text that stands as code. -/
def code (text : String) : String :=
  "\x60" ++ text ++ "\x60"

/-- What is shown for an entity. -/
def entityText (entity : Entity) : String :=
  unlines <|
    ["## " ++ entity.friendlyName, "", code entity.id, "", "**State:** " ++ code entity.state, "",
      "**Domain:** " ++ entity.domain] ++
    Entity.propertyLine "**Device Class:** " entity.deviceClass ++
    Entity.propertyLine "**Unit:** " entity.unit ++
    (if (attributeRows entity).isEmpty then [] else
      ["", "### Attributes", "| Attribute | Value |", "|-----------|-------|"] ++
        attributeRows entity) ++
    match entity.lastChanged with
    | some time => if time = "" then [] else ["", "*Last changed: " ++ time ++ "*"]
    | none => []

/-- What is shown for an entity that is not there. -/
def unknownEntityText (id : String) : String :=
  "**Unknown entity:** " ++ code id ++ "\n\nThis entity does not exist in Home Assistant."

/-! ## Services -/

/-- What is shown for a service. -/
def serviceText (service : Service) : String :=
  unlines <|
    ["## " ++ service.fullName] ++
    (if service.description = "" then [] else ["", service.description]) ++
    (if service.hasTarget then ["", "**Supports targeting** entities, areas, or devices"]
      else []) ++
    (if service.fields.isEmpty then [] else
      ["", "### Fields"] ++ service.fields.map fun (name, field) =>
        "- **" ++ name ++ "**" ++ Service.requiredMark field ++ ": " ++ Service.fieldText field)

/-- What is shown for a service that is not there. -/
def unknownServiceText (fullName : String) : String :=
  "**Unknown service:** " ++ code fullName

/-! ## Templates -/

/-- A text in a block of its own, under a title. -/
def block (title text : String) : String :=
  unlines ["### " ++ title, "", "\x60\x60\x60", text, "\x60\x60\x60"]

/-- What is shown for the outcome of rendering a template. -/
def templateText : Except Failure String → String
  | .ok result => block "Template Result" result
  | .error cause => block "Template Error" cause.message

/-! ## Showing -/

/-- What is shown for a target. -/
def ofTarget : HoverTarget → Activity (Option Hover)
  | .nothing => return none
  | .entity id range => do
    match ← (Inquiry.entity id).run with
    | .ok (some entity) => return some ⟨entityText entity, range⟩
    | .ok none => return some ⟨unknownEntityText id, range⟩
    | .error cause =>
      Activity.report (.entityHoverFailed id cause)
      return none
  | .service fullName range => do
    match ← (Inquiry.service fullName).run with
    | .ok (some service) => return some ⟨serviceText service, range⟩
    | .ok none => return some ⟨unknownServiceText fullName, range⟩
    | .error cause =>
      Activity.report (.serviceHoverFailed fullName cause)
      return none
  | .template source => do
    return some ⟨templateText (← (Inquiry.render source).run), none⟩

/-- What is shown for a position of a document. -/
def find (isConnected : Bool) (text : Text) (position : Position) : Activity (Option Hover) :=
  if isConnected then ofTarget (HoverTarget.find text position) else return none

end Hover

end HomeConfig
