import HomeConfig.Live.Entity
import HomeConfig.Live.Service

/-!
# Registries

Six lists can be asked for: the states of all entities, the services, and the registries of
areas, devices, floors and labels.
-/

namespace HomeConfig

/-- An area, a floor or a label. -/
structure Place where
  id : String
  name : String
deriving DecidableEq, Repr

/-- A device, with the area it stands in. -/
structure Device extends Place where
  area : Option String
deriving DecidableEq, Repr

/-- The lists that can be asked for. -/
inductive Registry
  | states
  | services
  | areas
  | devices
  | floors
  | labels
deriving DecidableEq, Repr

namespace Registry

/-- What a list holds. -/
def Item : Registry → Type
  | states => Entity
  | services => Service
  | areas => Place
  | devices => Device
  | floors => Place
  | labels => Place

/-- The name of a list. -/
def name : Registry → String
  | states => "states"
  | services => "services"
  | areas => "areas"
  | devices => "devices"
  | floors => "floors"
  | labels => "labels"

end Registry

namespace Place

/-- The identifier and the name of a registry entry, as checked fields. -/
def check (members : List (String × Json)) : Checked Place :=
  let id := (Json.lookup "id" members).getD .null
  Place.mk
    <$> Checked.text "id" id
    <*> Checked.text "name" (Json.orElse (Json.lookup "name" members) id)

/-- An entry of a registry.  Without a name it is shown under its identifier. -/
def read (members : List (String × Json)) : Except Failure Place :=
  Failure.ofChecked (check members)

end Place

namespace Device

/-- An entry of the registry of devices. -/
def read (members : List (String × Json)) : Except Failure Device :=
  Failure.ofChecked <| Device.mk
    <$> Place.check members
    <*> Checked.optionalText "area_id" ((Json.lookup "area" members).getD .null)

end Device

end HomeConfig
