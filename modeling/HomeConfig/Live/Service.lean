import HomeConfig.Failure

/-!
# Services

A service, also called an action, is something an automation can call.  The catalogue groups
services by domain; here every service stands for itself, in the order of the catalogue.
-/

namespace HomeConfig

/-- One input of a service. -/
structure ServiceField where
  description : String
  required : Bool
deriving DecidableEq, Repr

/-- A service that can be called. -/
structure Service where
  domain : String
  name : String
  /-- The name the service is shown under. -/
  title : String
  description : String
  fields : List (String × ServiceField)
  /-- Whether a call can be directed at entities, devices or areas. -/
  hasTarget : Bool
deriving DecidableEq, Repr

namespace Service

/-- The name by which a document calls the service. -/
def fullName (service : Service) : String :=
  service.domain ++ "." ++ service.name

/-- Whether a value is there and counts as present. -/
def isSet (value : Option Json) : Bool :=
  value.any Json.isTruthy

/-- One input of a service as the catalogue describes it. -/
def readField (raw : Json) : Except Failure ServiceField := do
  let members ← (Json.orEmpty (some raw)).members
  Failure.ofChecked <| ServiceField.mk
    <$> Checked.text "description"
      (Json.orElse (Json.lookup "description" members) (.string ""))
    <*> Checked.pure (isSet (Json.lookup "required" members))

/-- One service as the catalogue describes it. -/
def read (domain : Json) (name : String) (raw : Json) : Except Failure Service := do
  let members ← (Json.orEmpty (some raw)).members
  let fields ← (← (Json.orEmpty (Json.lookup "fields" members)).members).mapM
    fun (field, description) => do return (field, ← readField description)
  let make (domain title description : String) : Service :=
    ⟨domain, name, title, description, fields, isSet (Json.lookup "target" members)⟩
  Failure.ofChecked <| make
    <$> Checked.text "domain" domain
    <*> Checked.text "name" (Json.orElse (Json.lookup "name" members) (.string name))
    <*> Checked.text "description"
      (Json.orElse (Json.lookup "description" members) (.string ""))

/-- The services of one domain.  A domain without a name has none. -/
def readDomain (entry : Json) : Except Failure (List Service) := do
  let members ← entry.members
  let domain := (Json.lookup "domain" members).getD (.string "")
  if !domain.isTruthy then return []
  (← (Json.orEmpty (Json.lookup "services" members)).members).mapM
    fun (name, raw) => read domain name raw

/-- The services of a catalogue. -/
def ofCatalogue (entries : List Json) : Except Failure (List Service) := do
  return (← entries.mapM readDomain).flatten

/-- The entries of a catalogue of any shape: the items of a list, the names of an object, the
characters of a text. -/
def catalogueEntries : Json → Except Failure (List Json)
  | .array entries => .ok entries
  | .object members => .ok (members.map fun member => .string member.1)
  | .string text => .ok (text.toList.map fun c => .string (String.singleton c))
  | _ => .error .notACollection

end Service

end HomeConfig
