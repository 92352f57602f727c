import HomeConfig.Editor.Session

/-!
# Messages of an editor

What goes between the server and an editor, written as objects.  Kinds, severities and formats are
numbers, and what is absent is left out.
-/

namespace HomeConfig

namespace Wire

/-- A member of an object, if it has a value. -/
def member {α : Type} (name : String) (write : α → Json) : Option α → List (String × Json)
  | some value => [(name, write value)]
  | none => []

/-- A number that counts. -/
def number (count : Nat) : Json :=
  .integer count

/-- The members of an object that hold a text. -/
def text? (object : Json) (name : String) : Option String :=
  match object.get? name with
  | some (.string text) => some text
  | _ => none

/-- The members of an object that hold an integer. -/
def integer? (object : Json) (name : String) : Option Int :=
  match object.get? name with
  | some (.integer number) => some number
  | _ => none

end Wire

open Wire

/-! ## Places -/

namespace Position

/-- A position as an object. -/
def toJson (position : Position) : Json :=
  .object [("line", number position.line), ("character", number position.character)]

/-- The position that an object writes; what is missing is zero. -/
def ofJson (object : Json) : Position :=
  ⟨((integer? object "line").getD 0).toNat, ((integer? object "character").getD 0).toNat⟩

/-- The position that an object writes, if its coordinates are within the limits. -/
def ofJson? (object : Json) : Option Position :=
  ofCoordinates? ((integer? object "line").getD 0) ((integer? object "character").getD 0)

end Position

namespace Range

/-- A range as an object. -/
def toJson (range : Range) : Json :=
  .object [("start", range.start.toJson), ("end", range.stop.toJson)]

/-- The range that an object writes. -/
def ofJson (object : Json) : Range :=
  ⟨.ofJson ((object.get? "start").getD .null), .ofJson ((object.get? "end").getD .null)⟩

end Range

/-- A place in a document as an object. -/
def Location.toJson (place : Location) : Json :=
  .object [("uri", .string place.uri), ("range", place.range.toJson)]

/-! ## Findings -/

/-- The number of a severity. -/
def Severity.number : Severity → Nat
  | .error => 1
  | .warning => 2

/-- The name under which the server reports findings. -/
def Diagnostic.origin : String := "ha-lsp"

/-- A finding as an object. -/
def Diagnostic.toJson (found : Diagnostic) : Json := .object [
  ("range", found.range.toJson),
  ("message", .string found.finding.message),
  ("severity", Wire.number found.finding.severity.number),
  ("code", .string found.finding.code),
  ("source", .string origin)]

/-! ## Documentation -/

namespace Documentation

/-- Documentation as a text, or as an object that tells the form of its text. -/
def toJson : Documentation → Json
  | .plain text => .string text
  | .markdown text => .object [("kind", .string "markdown"), ("value", .string text)]

/-- The documentation that a value writes. -/
def ofJson? : Json → Option Documentation
  | .string text => some (.plain text)
  | .object members =>
    let text := (text? (.object members) "value").getD ""
    some (if text? (.object members) "kind" = some "markdown" then .markdown text else .plain text)
  | _ => none

end Documentation

/-- What is shown for a place as an object. -/
def Hover.toJson (hover : Hover) : Json :=
  .object <| ("contents", (Documentation.markdown hover.text).toJson) ::
    member "range" Range.toJson hover.range

/-! ## Completions -/

/-- The kinds of items in the order of their numbers, which start at one. -/
def Item.kinds : List Item.Kind := [
  .text, .method, .function, .constructor, .field, .variable, .classType, .interface, .module,
  .property, .unit, .value, .enumeration, .keyword, .snippet, .color, .file, .reference, .folder,
  .enumMember, .constant, .record, .event, .operator, .typeParameter]

/-- An edit as an object. -/
def Edit.toJson (edit : Edit) : Json :=
  .object [("range", edit.range.toJson), ("newText", .string edit.newText)]

/-- The edit that an object writes. -/
def Edit.ofJson (object : Json) : Edit :=
  ⟨.ofJson ((object.get? "range").getD .null), (text? object "newText").getD ""⟩

namespace Item

/-- An item as an object. -/
def toJson (item : Item) : Json :=
  .object <| ("label", .string item.label) ::
    member "kind" (fun kind => number (kinds.idxOf kind + 1)) item.kind ++
    member "detail" .string item.detail ++
    member "documentation" Documentation.toJson item.documentation ++
    member "sortText" .string item.sortText ++
    member "insertText" .string item.insertText ++
    member "insertTextFormat" (fun isSnippet => number (if isSnippet then 2 else 1))
      item.isSnippet ++
    member "textEdit" Edit.toJson item.edit ++
    member "data" id item.data

/-- The kind with a number. -/
def kind? (number : Int) : Option Kind :=
  if 0 < number then kinds[number.toNat - 1]? else none

/-- The item that an object writes. -/
def ofJson (object : Json) : Item where
  label := (text? object "label").getD ""
  kind := (integer? object "kind").bind kind?
  detail := text? object "detail"
  documentation := (object.get? "documentation").bind Documentation.ofJson?
  sortText := text? object "sortText"
  insertText := text? object "insertText"
  isSnippet := (integer? object "insertTextFormat").map (· = 2)
  edit := (object.get? "textEdit").map Edit.ofJson
  data := (object.get? "data").filter (· != .null)

end Item

/-! ## Changes and answers -/

/-- The change that an object writes, with the four coordinates of its range in a list.  They must
be within the limits. -/
def Change.ofJson? (object : Json) : Option Change :=
  let text := ((text? object "text").getD "").toList
  match object.get? "range" with
  | some (.array [.integer line, .integer column, .integer lastLine, .integer lastColumn]) => do
    let start ← Position.ofCoordinates? line column
    let stop ← Position.ofCoordinates? lastLine lastColumn
    return .part ⟨start, stop⟩ text
  | _ => some (.whole text)

/-- An answer as a value. -/
def Answer.toJson : Answer → Json
  | .nothing => .null
  | .completions items =>
    .object [("isIncomplete", .bool false), ("items", .array (items.map Item.toJson))]
  | .hover found => found.toJson
  | .location found => found.toJson
  | .diagnostics found =>
    .object [("kind", .string "full"), ("items", .array (found.map Diagnostic.toJson))]
  | .item resolved => resolved.toJson
  | .connected isConnected => .object [("connected", .bool isConnected)]

end HomeConfig
