import HomeConfig.Json.Writer
import HomeConfig.Live.Registry

/-!
# Requests and replies

Home Assistant answers over HTTP.  States and services have endpoints of their own.  Areas,
devices, floors and labels have none: they are read by rendering a template that writes the
registry as JSON.

A reply is either an outage, when no answer came, or a response.  `Reply.content` says what a
reply holds; a missing page holds null, a body that is not declared as JSON holds a text.
`Registry.decode` reads a list from that content.
-/

namespace HomeConfig

/-! ## Addresses -/

/-- Where Home Assistant is reached and with which credential. -/
structure Access where
  apiUrl : String
  token : String
  /-- The timeout of a request in seconds. -/
  timeout : Int
deriving DecidableEq, Repr

/-- What can be asked for. -/
inductive Endpoint
  | states
  | services
  | entity (id : String)
  | template (source : String)
deriving DecidableEq, Repr

namespace Endpoint

/-- The path behind the address of the interface. -/
def path : Endpoint → String
  | states => "/states"
  | services => "/services"
  | entity id => "/states/" ++ id
  | template _ => "/template"

/-- Whether something is sent along. -/
def isPost : Endpoint → Bool
  | template _ => true
  | _ => false

/-- What is sent along. -/
def body : Endpoint → String
  | template source => Json.render .compact (.object [("template", .string source)])
  | _ => ""

end Endpoint

/-- The address of an endpoint. -/
def Access.url (access : Access) (endpoint : Endpoint) : String :=
  access.apiUrl ++ endpoint.path

/-! ## Registry templates -/

/-- A template statement. -/
def statement (source : String) : String :=
  "\x7b% " ++ source ++ " %\x7d"

/-- A template that writes a registry as a list of objects with the given members. -/
def listTemplate (noun source : String) (members : List (String × String)) : String :=
  let list := noun ++ "_list"
  let object := ", ".intercalate (members.map fun (name, value) => s!"'{name}': {value}")
  statement s!"set {list} = []" ++ statement s!"for {noun} in {source}()" ++
  statement (s!"set {list} = {list} + [" ++ "\x7b" ++ object ++ "\x7d]") ++
  statement "endfor" ++ "\x7b\x7b " ++ list ++ " | tojson \x7d\x7d"

/-- A template for a registry whose entries have an identifier and a name. -/
def nameTemplate (noun source : String) : String :=
  listTemplate noun source [("id", noun), ("name", s!"{noun}_name({noun})")]

namespace Registry

/-- Where a list is read from. -/
def endpoint : Registry → Endpoint
  | states => .states
  | services => .services
  | areas => .template (nameTemplate "area" "areas")
  | devices => .template <| listTemplate "device" "devices"
      [("id", "device"), ("name", "device_attr(device, 'name')"),
       ("area", "device_attr(device, 'area_id')")]
  | floors => .template (nameTemplate "floor" "floors")
  | labels => .template (nameTemplate "label" "labels")

end Registry

/-! ## Replies -/

/-- Why no answer came. -/
inductive Outage
  | refused
  | timedOut
  /-- Any other failure of the transport, under its name. -/
  | other (name : String)
  | invalidAddress
deriving DecidableEq, Repr

/-- An answer. -/
structure Response where
  status : Int
  contentType : Option String
  body : String
deriving DecidableEq, Repr

/-- An answer, or why none came. -/
abbrev Reply := Except Outage Response

/-- The mark that may stand at the start of a body to tell its encoding. -/
def byteOrderMark : Char := '\ufeff'

/-- A text without a leading mark of its encoding. -/
def dropMark : Text → Text
  | c :: rest => if c = byteOrderMark then rest else c :: rest
  | [] => []

/-- The value of a text that must be JSON. -/
def readJson (text : Text) : Except Failure Json :=
  match Json.read text with
  | .ok value => .ok value
  | .error error => .error (.unreadable text error)

namespace Response

/-- Whether the body is declared as JSON. -/
def isJson (response : Response) : Bool :=
  response.contentType.any fun type =>
    Text.contains "application/json".toList type.toList

/-- What a successful response holds.  An empty JSON body counts as an empty object. -/
def content (response : Response) : Except Failure Json :=
  if response.isJson then
    if response.body = "" then .ok (.object [])
    else readJson (dropMark response.body.toList)
  else .ok (.string response.body)

end Response

/-- A request that failed. -/
def requestFailed (message : String) (status : Option Int := none) : Failure :=
  .problem { Problem.ofQuery "request" message with status := status }

/-- What a reply from an address holds. -/
def Reply.content (url : String) : Reply → Except Failure Json
  | .error .refused => .error (requestFailed (url ++ ": Connection failed"))
  | .error .timedOut => .error (requestFailed (url ++ ": Timeout"))
  | .error (.other name) => .error (requestFailed (url ++ ": " ++ name))
  | .error .invalidAddress => .error .invalidAddress
  | .ok response =>
    if response.status = 404 then .ok .null
    else if response.status = 200 ∨ response.status = 201 then response.content
    else .error <| requestFailed
      s!"HA API error ({response.status}): {response.body}" (some response.status)

/-! ## Contents -/

/-- The text a template was rendered to.  A rendering that came as JSON is written out again. -/
def renderedText : Json → Except Failure String
  | .null => .error (.ofQuery "render_template" "Template endpoint not available")
  | .string text => .ok text
  | value => .ok (Json.render .spaced value)

/-- The single entity in a reply, if it holds one. -/
def readEntity : Json → Except Failure (Option Entity)
  | .object members => some <$> Entity.ofState (.object members)
  | _ => .ok none

/-- The states in a list that name an entity. -/
def readStates : List Json → Except Failure (List Entity)
  | [] => .ok []
  | raw :: rest => do
    let members ← raw.members
    if Service.isSet (Json.lookup "entity_id" members) then
      let entity ← Entity.ofState raw
      return entity :: (← readStates rest)
    else readStates rest

/-- The entries of a rendered registry that have an identifier. -/
def namedEntries (items : List Json) : List (List (String × Json)) :=
  items.filterMap fun
    | .object members => if Service.isSet (Json.lookup "id" members) then some members else none
    | _ => none

/-- The list that a rendered registry holds. -/
def readRendered (tool : String) (content : Json) :
    Except Failure (List (List (String × Json))) := do
  let text ← renderedText content
  match Json.read text.toList with
  | .ok (.array items) => return namedEntries items
  | .ok _ => throw (.ofQuery tool "Template did not produce a list")
  | .error (.flawed _ _) =>
    throw (.ofQuery tool ("Unexpected template output: " ++ String.ofList (text.toList.take 100)))
  | .error error => throw (.unreadable text.toList error)

namespace Registry

/-- The list in the content of a reply. -/
def decode : (registry : Registry) → Json → Except Failure (List registry.Item)
  | states, .array items => readStates items
  | states, _ => .error (.ofQuery "fetch_states" "Failed to list entity states")
  | services, .array entries => Service.ofCatalogue entries
  | services, _ => .error (.ofQuery "fetch_services" "Failed to list services")
  | areas, content => do (← readRendered "fetch_areas" content).mapM Place.read
  | devices, content => do (← readRendered "fetch_devices" content).mapM Device.read
  | floors, content => do (← readRendered "fetch_floors" content).mapM Place.read
  | labels, content => do (← readRendered "fetch_labels" content).mapM Place.read

/-- The list in a reply. -/
def ofReply (registry : Registry) (url : String) (reply : Reply) :
    Except Failure (List registry.Item) := do
  registry.decode (← Reply.content url reply)

end Registry

end HomeConfig
