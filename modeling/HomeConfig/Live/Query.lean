import HomeConfig.Live.Activity

/-!
# Queries

The questions that the features of the editor ask, as inquiries.  Lists come from the cache.
Floors and labels may be missing from an installation, so a failure to read them is an empty list.
The live state of one entity is asked for directly; when that fails or finds nothing, the cached
states answer.
-/

namespace HomeConfig

namespace Inquiry

/-- A list with the entry it is cached in. -/
def listing (registry : Registry) : Inquiry (Listing registry) :=
  ExceptT.mk (.list registry .finish)

/-- A list. -/
def list (registry : Registry) : Inquiry (List registry.Item) := do
  return (← listing registry).value

/-- A list, empty when it cannot be had. -/
def listOrEmpty (registry : Registry) : Inquiry (List registry.Item) :=
  ExceptT.mk <| .list registry fun
    | .ok entry => .finish (.ok entry.value)
    | .error cause => .note (.unavailable registry cause) (.finish (.ok []))

/-- What an endpoint answers. -/
def read (endpoint : Endpoint) : Inquiry Json :=
  ExceptT.mk (.read endpoint .finish)

/-- A failure or a value as the outcome of an inquiry. -/
def ofExcept {α : Type} (outcome : Except Failure α) : Inquiry α :=
  ExceptT.mk (.finish outcome)

/-- A list read past the cache. -/
def fetch (registry : Registry) : Inquiry (List registry.Item) := do
  ofExcept (registry.decode (← read registry.endpoint))

/-! ## Entities -/

/-- The states of all entities. -/
def states : Inquiry (List Entity) :=
  list .states

/-- The states of all entities by identifier. -/
def entityIndex : Inquiry EntityIndex := do
  let states ← listing .states
  ExceptT.mk (.index states fun index => .finish (.ok index))

/-- The cached state of one entity. -/
def entity (id : String) : Inquiry (Option Entity) := do
  return (← entityIndex).table.find? id

/-- The live state of one entity. -/
def liveEntity (id : String) : Inquiry (Option Entity) := do
  ofExcept (readEntity (← read (.entity id)))

/-- The live state of one entity, or else the cached one. -/
def currentEntity (id : String) : Inquiry (Option Entity) :=
  ExceptT.mk do
    match ← (liveEntity id).run with
    | .ok (some live) => return .ok (some live)
    | .ok none => (entity id).run
    | .error cause =>
      Activity.report (.liveReadFailed id cause)
      (entity id).run

/-- Insert a text into an increasing list of texts, unless it is there. -/
def insertText (text : String) : List String → List String
  | [] => [text]
  | other :: rest =>
    if text = other then other :: rest
    else if text < other then text :: other :: rest
    else other :: insertText text rest

/-- The domains of all entities, in increasing order. -/
def domains : Inquiry (List String) := do
  return (← states).foldl (fun domains entity => insertText entity.domain domains) []

/-! ## Services -/

/-- All services. -/
def services : Inquiry (List Service) :=
  list .services

/-- The first service of a given name. -/
def service (fullName : String) : Inquiry (Option Service) := do
  return (← services).find? fun service => service.fullName = fullName

/-! ## Templates -/

/-- What a template renders to. -/
def render (template : String) : Inquiry String := do
  ofExcept (renderedText (← read (.template template)))

end Inquiry

end HomeConfig
