import HomeConfig.Failure

/-!
# Entities

A snapshot of one entity: its identifier, its state and its attributes at the time it was read.
-/

namespace HomeConfig

/-- The state of an entity when it was read. -/
structure Entity where
  id : String
  state : String
  attributes : List (String × Json)
  lastChanged : Option String
  lastUpdated : Option String
deriving BEq

namespace Entity

/-- The snapshot in an answer.  A missing identifier is empty, a missing state is unknown, and a
state of any kind is kept as the text it is shown as. -/
def ofState (raw : Json) : Except Failure Entity := do
  let members ← raw.members
  let value (key : String) (missing : Json) : Json := (Json.lookup key members).getD missing
  Failure.ofChecked <| Entity.mk
    <$> Checked.text "entity_id" (value "entity_id" (.string ""))
    <*> Checked.pure (value "state" (.string "unknown")).display
    <*> Checked.object "attributes" (Json.orEmpty (Json.lookup "attributes" members))
    <*> Checked.optionalText "last_changed" (value "last_changed" .null)
    <*> Checked.optionalText "last_updated" (value "last_updated" .null)

/-- The part of the identifier before the first dot. -/
def domain (entity : Entity) : String :=
  String.ofList (entity.id.toList.takeWhile (· != '.'))

/-- An attribute, null when it is missing. -/
def attribute? (entity : Entity) (name : String) : Json :=
  (Json.lookup name entity.attributes).getD .null

/-- The name an entity is shown under: the one it was given, else its identifier. -/
def friendlyName (entity : Entity) : String :=
  (Json.orElse (Json.lookup "friendly_name" entity.attributes) (.string entity.id)).display

/-- What kind of device the entity belongs to. -/
def deviceClass (entity : Entity) : Json :=
  entity.attribute? "device_class"

/-- The unit in which the state is measured. -/
def unit (entity : Entity) : Json :=
  entity.attribute? "unit_of_measurement"

end Entity

/-- Entities by identifier. -/
abbrev EntityTable := List (String × Entity)

namespace EntityTable

/-- Set the entity of an identifier: in place if the identifier is there, else at the end. -/
def insert (entity : Entity) : EntityTable → EntityTable
  | [] => [(entity.id, entity)]
  | (id, old) :: rest =>
    if id = entity.id then (id, entity) :: rest else (id, old) :: insert entity rest

/-- The table of some entities; of several with one identifier the last one counts. -/
def ofList (entities : List Entity) : EntityTable :=
  entities.foldl (fun table entity => insert entity table) []

/-- The entity of an identifier. -/
def find? (table : EntityTable) (id : String) : Option Entity :=
  List.lookup id table

end EntityTable

end HomeConfig
