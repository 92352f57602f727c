import HomeConfig.Live.Activity
import HomeConfig.Settings.Coercion
import HomeConfig.Text.Class.Case

/-!
# Settings

Every setting has a name, and some have further names from which they can be read.  Settings come
in layers: what a caller gives comes before the environment, the environment before the settings
file.  The first layer that holds a setting under any of its names decides, even when the value
is empty there.  Names are compared in lower case, and unknown ones are ignored.
-/

namespace HomeConfig

/-- Where the server is used. -/
inductive Deployment
  | development
  | production
  | testing
deriving DecidableEq, Repr

namespace Deployment

/-- The name of a deployment. -/
def name : Deployment → String
  | development => "development"
  | production => "production"
  | testing => "testing"

end Deployment

/-- The settings of the server. -/
structure Settings where
  deployment : Deployment
  logLevel : Level
  apiUrl : String
  token : String
  /-- The timeout of a request in seconds. -/
  requestTimeout : Int
  /-- For how many seconds a fetched list counts as fresh. -/
  timeToLive : Binary64
  /-- For how many seconds a document must be left alone before it is checked. -/
  debounce : Binary64
  /-- Where secrets are looked for last. -/
  sharedSecrets : String
deriving DecidableEq

namespace Settings

/-- Values under lower-case names. -/
abbrev Layer := List (String × Json)

/-- A layer from values under any names; of two with one name the last one counts. -/
def layer (values : List (String × Json)) : Layer :=
  values.foldl (fun layer (name, value) => Json.insert (Text.lowerString name) value layer) []

/-- A layer from texts.  A name that is bound to nothing supplies nothing, and takes away what the
same name supplied before. -/
def textLayer (values : List (String × Option String)) : Layer :=
  let named := values.foldl (fun layer (name, value) =>
    Json.insert (Text.lowerString name) (value.elim .null .string) layer) []
  named.filter fun (_, value) => value != .null

/-- The value of a setting in the first layer that has it, under the first name it has there. -/
def find? (layers : List Layer) (names : List String) : Option Json :=
  layers.findSome? fun layer => names.findSome? fun name => Json.lookup name layer

/-- The names under which the address is read. -/
def apiUrlNames : List String := ["ha_api_url", "supervisor_api"]

/-- The names under which the credential is read. -/
def tokenNames : List String := ["ha_token", "supervisor_token", "hass_token"]

/-- The deployments by name. -/
def deployments : List (String × Deployment) :=
  [Deployment.development, .production, .testing].map fun choice => (choice.name, choice)

/-- The levels by name. -/
def levels : List (String × Level) :=
  [Level.debug, .info, .warning, .error].map fun choice => (choice.name, choice)

/-- The settings that some layers give. -/
def check (layers : List Layer) : Checked Settings :=
  let value (names : List String) (default : Json) : Json := (find? layers names).getD default
  Settings.mk
    <$> Coercion.choice "environment" deployments
      (value ["environment"] (.string "development"))
    <*> Coercion.choice "log_level" levels (value ["log_level"] (.string "INFO"))
    <*> Checked.text "ha_api_url" (value apiUrlNames (.string "http://supervisor/core/api"))
    <*> Checked.text "ha_token" (value tokenNames (.string ""))
    <*> (Coercion.ensure "request_timeout" .tooSmall (1 ≤ ·) <|
      Coercion.ensure "request_timeout" .tooLarge (· ≤ 300) <|
      Coercion.integer "request_timeout" (value ["request_timeout"] (.integer 30)))
    <*> (Coercion.ensure "cache_ttl_seconds" .notGreater
        (fun seconds => (0 : Binary64) < seconds) <|
      Coercion.number "cache_ttl_seconds" (value ["cache_ttl_seconds"] (.integer 60)))
    <*> (Coercion.ensure "diagnostics_debounce_seconds" .tooSmall
        (fun seconds => (0 : Binary64) ≤ seconds) <|
      Coercion.number "diagnostics_debounce_seconds"
        (value ["diagnostics_debounce_seconds"] (.number (Binary64.ofDecimal false 5 (-1)))))
    <*> Checked.text "shared_secrets_path"
      (value ["shared_secrets_path"] (.string "/homeassistant/secrets.yaml"))

/-- The settings that some layers give. -/
def read (layers : List Layer) : Except Failure Settings :=
  Failure.ofChecked (check layers)

/-- Whether a credential is set. -/
def hasToken (settings : Settings) : Bool :=
  settings.token != ""

/-- The credential as it is shown: hidden. -/
def shownToken (settings : Settings) : String :=
  if settings.hasToken then "**********" else ""

end Settings

namespace Access

/-- The fields of an access, each of the kind it must have. -/
def check (apiUrl token timeout : Json) : Checked Access :=
  Access.mk
    <$> Checked.text "api_url" apiUrl
    <*> Checked.text "token" token
    <*> Coercion.integer "timeout" timeout

/-- The starts of an address that can be requested. -/
def schemes : List String := ["http://", "https://"]

/-- The access that settings describe.  Slashes at the end of the address do not count. -/
def ofSettings (settings : Settings) : Except Failure Access :=
  let url := (settings.apiUrl.toList.reverse.dropWhile (· == '/')).reverse
  if schemes.any fun scheme => Text.startsWith scheme.toList url then
    .ok ⟨String.ofList url, settings.token, settings.requestTimeout⟩
  else .error <| .problem {
    kind := .configuration
    message := "HA API URL must be http(s): " ++ Text.quotedString settings.apiUrl }

/-- The access to live data, or `none` without a credential, and what is reported about it. -/
def choose (settings : Settings) : Except Failure (Option Access) × Notice :=
  if settings.hasToken then (some <$> ofSettings settings, .connected settings.apiUrl)
  else (.ok none, .disconnected)

end Access

end HomeConfig
