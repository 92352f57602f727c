import HomeConfig.Completion.Item
import HomeConfig.Completion.Vocabulary
import HomeConfig.Document.Context
import HomeConfig.Live.Query
import HomeConfig.Text.Class.Case

/-!
# Completions at a cursor

What precedes the cursor on its line decides what is offered.  Inside a template these are the
functions of templates, with the entities in front of them where a function takes one.  Behind a
key they are the values that the key takes, and otherwise the keys that may stand there.

An `Offer` is decided without live data: it is either a fixed list, or a registry with the items
that are made of its entries.  What has been typed so far filters the entries, without regard to
case, and entries that begin with it are sorted to the front.
-/

namespace HomeConfig

/-! ## What has been typed -/

/-- What has been typed of a name: an opening quote, and the characters of the name so far. -/
structure Typed where
  quote : Option Char
  name : Text
deriving DecidableEq, Repr

namespace Typed

/-- A character of a name that is being typed. -/
def isNameChar (c : Char) : Bool :=
  Text.isWord c || c == '.'

/-- What is typed when a text holds nothing but blanks, a quote and the start of a name. -/
def ofText? (text : Text) : Option Typed :=
  let (quote, name) := match Text.trimStart text with
    | c :: rest => if Text.isQuote c then (some c, rest) else (none, c :: rest)
    | [] => (none, [])
  if name.all isNameChar then some ⟨quote, name⟩ else none

/-- What precedes and what follows the last occurrence of a character. -/
def cutLast? (separator : Char) (text : Text) : Option (Text × Text) :=
  match text.reverse.dropWhile (· != separator) with
  | [] => none
  | _ :: before => some (before.reverse, (text.reverse.takeWhile (· != separator)).reverse)

/-- What is typed behind the last colon of a line. -/
def value (line : Text) : Text :=
  match (cutLast? ':' line).bind fun (_, behind) => ofText? behind with
  | some typed => typed.name
  | none => []

/-- What is typed as the first argument of a template function that takes an entity. -/
def argument? (line : Text) : Option Typed := do
  let (before, behind) ← cutLast? '(' line
  let typed ← ofText? behind
  let function := ((before.reverse.dropWhile Text.isBlank).takeWhile Text.isWord).reverse
  if Vocabulary.lookupFunctions.contains (String.ofList function) then some typed else none

/-- The range that a completion replaces: what has been typed, up to the cursor. -/
def range (cursor : Position) (typed : Text) : Range :=
  ⟨⟨cursor.line, cursor.character - typed.length⟩, cursor⟩

end Typed

/-! ## Candidates -/

namespace Candidate

/-- Whether one of some names contains what was typed, which is given in lower case. -/
def isMatch (needle : Text) (names : List String) : Bool :=
  needle.isEmpty || names.any fun name => Text.contains needle (Text.lower name.toList)

/-- The sort key that puts names which begin with what was typed in front of the others. -/
def rank (needle : Text) (name : String) : String :=
  if Text.startsWith needle (Text.lower name.toList) then "0" ++ name else "1" ++ name

/-- The item of an entity. -/
def entity (needle : Text) (range : Range) (entity : Entity) : Option Item :=
  if isMatch needle [entity.id, entity.friendlyName] then
    some {
      label := entity.id
      kind := some .value
      detail := some entity.friendlyName
      sortText := some (rank needle entity.id)
      edit := some ⟨range, entity.id⟩
      data := some (Subject.entity entity.id).data }
  else none

/-- The item of an entity as an argument: the quote is closed, or both are set. -/
def argument (typed : Typed) (range : Range) (state : Entity) : Option Item :=
  (entity (Text.lower typed.name) range state).map fun item =>
    let quoted := match typed.quote with
      | some quote => state.id ++ quote.toString
      | none => "'" ++ state.id ++ "'"
    { item with
      sortText := item.sortText.map ("0" ++ ·)
      edit := some ⟨range, quoted⟩ }

/-- The item of a service. -/
def service (needle : Text) (range : Range) (service : Service) : Option Item :=
  if isMatch needle [service.fullName] then
    some {
      label := service.fullName
      kind := some .function
      detail := some service.title
      sortText := some (rank needle service.fullName)
      edit := some ⟨range, service.fullName⟩
      data := some (Subject.service service.fullName).data }
  else none

/-- The item of a registry entry.  One without an identifier is not offered. -/
def place (kind : Item.Kind) (describe : String → String) (needle : Text) (range : Range)
    (entry : Place) : Option Item :=
  if entry.id ≠ "" ∧ isMatch needle [entry.id, entry.name] then
    some {
      label := entry.id
      kind := some kind
      detail := some (if entry.name = "" then entry.id else entry.name)
      documentation := some (.plain (describe entry.name))
      sortText := some (rank needle entry.id)
      edit := some ⟨range, entry.id⟩ }
  else none

/-- The description of a device. -/
def describeDevice (device : Device) : String :=
  match device.area with
  | some area => if area = "" then "Device" else "Device in area: " ++ area
  | none => "Device"

/-- The item of a device. -/
def device (needle : Text) (range : Range) (device : Device) : Option Item :=
  place .module (fun _ => describeDevice device) needle range device.toPlace

end Candidate

/-! ## Offers -/

/-- What is offered at a cursor. -/
inductive Offer
  | fixed (items : List Item)
  | live (registry : Registry) (items : List registry.Item → List Item)

namespace Offer

/-- Nothing. -/
def nothing : Offer := fixed []

/-- The entries of a registry that have an item. -/
def entries (registry : Registry) (item : registry.Item → Option Item) : Offer :=
  live registry (List.filterMap item)

/-- Words of one kind. -/
def words (kind : Item.Kind) (table : List (String × String)) : List Item :=
  table.map fun (word, detail) =>
    { label := word, kind := some kind, detail := some detail, insertText := some word }

/-- The functions of templates. -/
def functions : List Item :=
  Vocabulary.templateFunctions.map fun function =>
    { label := function.name
      kind := some .function
      detail := some function.detail
      insertText := some function.snippet
      isSnippet := some true
      sortText := some ("1" ++ function.name) }

/-- Inside a template. -/
def template (lineBefore : Text) (cursor : Position) : Offer :=
  match Typed.argument? lineBefore with
  | some typed =>
    live .states fun states =>
      List.filterMap (Candidate.argument typed (Typed.range cursor typed.name)) states ++ functions
  | none => fixed functions

/-- Behind a key. -/
def value (context : Context) (cursor : Position) : Offer :=
  let key := String.ofList (Text.lower (context.key.getD []))
  let typed := Typed.value context.lineBefore
  let needle := Text.lower typed
  let range := Typed.range cursor typed
  if Vocabulary.entityKeys.contains key then
    entries .states (Candidate.entity needle range)
  else if Vocabulary.serviceKeys.contains key then
    entries .services (Candidate.service needle range)
  else if Vocabulary.areaKeys.contains key then
    entries .areas (Candidate.place .folder ("Area: " ++ ·) needle range)
  else if Vocabulary.deviceKeys.contains key then
    entries .devices (Candidate.device needle range)
  else if Vocabulary.floorKeys.contains key then
    entries .floors (Candidate.place .folder ("Floor: " ++ ·) needle range)
  else if Vocabulary.labelKeys.contains key then
    entries .labels (Candidate.place .constant ("Label: " ++ ·) needle range)
  else if Vocabulary.triggerTypeKeys.contains key ∧ context.inTrigger then
    fixed (words .enumMember Vocabulary.triggerTypes)
  else if key = "condition" then
    fixed (words .enumMember Vocabulary.conditionTypes)
  else nothing

/-- The keys of some tables, each key under its first description. -/
def keysOf (seen : List String) : List (String × String) → List Item
  | [] => []
  | (key, detail) :: rest =>
    if seen.contains key then keysOf seen rest
    else
      { label := key, kind := some .property, detail := some detail,
        insertText := some (key ++ ": ") } :: keysOf (key :: seen) rest

/-- Where a key may stand. -/
def keys (context : Context) : Offer :=
  let atTop := context.parentKeys.isEmpty || context.parentKeys.head? == some "automation"
  fixed <| keysOf [] <|
    (if atTop then Vocabulary.automationKeys else []) ++
    (if context.inTrigger then Vocabulary.triggerKeys else []) ++
    (if context.inAction then Vocabulary.actionKeys else [])

/-- What is offered in a context. -/
def ofContext (context : Context) (cursor : Position) : Offer :=
  if context.inTemplate then template context.lineBefore cursor
  else if context.inValue then value context cursor
  else keys context

/-- The items of an offer.  Floors and labels that cannot be read count as an empty list. -/
def items : Offer → Inquiry (List Item)
  | fixed items => pure items
  | live .floors items => return items (← Inquiry.listOrEmpty .floors)
  | live .labels items => return items (← Inquiry.listOrEmpty .labels)
  | live registry items => return items (← Inquiry.list registry)

end Offer

/-- The completions at a cursor.  When live data cannot be read there are none. -/
def complete (text : Text) (cursor : Position) : Activity (List Item) := do
  let context := Context.ofCursor text cursor.line cursor.character
  match ← (Offer.ofContext context cursor).items.run with
  | .ok items => return items
  | .error cause =>
    Activity.report (.completionFailed cursor cause)
    return []

end HomeConfig
