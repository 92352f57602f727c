/-!
# The vocabulary of automations

The words that are known without a connection: which keys take which kind of value, the keys and
types of automations, and the functions of templates.  Every table is in the order in which it is
offered, each word with one line about it.
-/

namespace HomeConfig

namespace Vocabulary

/-! ## Keys by the kind of their values -/

/-- Keys whose value is an entity. -/
def entityKeys : List String := ["entity_id", "entity", "entities"]

/-- Keys whose value is a service. -/
def serviceKeys : List String := ["service", "action"]

/-- Keys whose value is an area. -/
def areaKeys : List String := ["area_id", "area"]

/-- Keys whose value is a device. -/
def deviceKeys : List String := ["device_id", "device"]

/-- Keys whose value is a floor. -/
def floorKeys : List String := ["floor_id", "floor"]

/-- Keys whose value is a label. -/
def labelKeys : List String := ["label_id", "label"]

/-- Keys whose value, inside a trigger, is the type of the trigger. -/
def triggerTypeKeys : List String := ["platform", "trigger"]

/-- Template functions whose first argument is an entity. -/
def lookupFunctions : List String := ["states", "is_state", "state_attr", "is_state_attr"]

/-! ## Types -/

/-- The types of triggers. -/
def triggerTypes : List (String × String) :=
  [("state", "Trigger on entity state change"),
   ("numeric_state", "Trigger on numeric threshold"),
   ("time", "Trigger at specific time"),
   ("time_pattern", "Trigger on time pattern"),
   ("sun", "Trigger at sunrise/sunset"),
   ("zone", "Trigger on zone enter/leave"),
   ("device", "Device trigger"),
   ("mqtt", "MQTT message trigger"),
   ("webhook", "Webhook trigger"),
   ("event", "Event trigger"),
   ("homeassistant", "HA start/stop trigger"),
   ("template", "Template trigger"),
   ("calendar", "Calendar event trigger"),
   ("geo_location", "Geo location trigger"),
   ("conversation", "Voice assistant trigger"),
   ("persistent_notification", "Notification trigger")]

/-- The types of conditions. -/
def conditionTypes : List (String × String) :=
  [("state", "Entity state condition"),
   ("numeric_state", "Numeric state condition"),
   ("time", "Time window condition"),
   ("sun", "Sun position condition"),
   ("zone", "Zone condition"),
   ("template", "Template condition"),
   ("device", "Device condition"),
   ("and", "All conditions must be true"),
   ("or", "Any condition must be true"),
   ("not", "Condition must be false"),
   ("trigger", "Check which trigger fired")]

/-! ## Keys -/

/-- The keys of an automation. -/
def automationKeys : List (String × String) :=
  [("alias", "Friendly name for the automation"),
   ("description", "Description of the automation"),
   ("trigger", "Trigger conditions"),
   ("triggers", "Trigger conditions"),
   ("condition", "Conditions to check"),
   ("conditions", "Conditions to check"),
   ("action", "Actions to perform"),
   ("actions", "Actions to perform"),
   ("mode", "Execution mode (single, restart, queued, parallel)"),
   ("max", "Max concurrent runs (for queued/parallel)"),
   ("max_exceeded", "Action when max exceeded"),
   ("variables", "Variables available in automation"),
   ("trace", "Trace configuration")]

/-- The keys of a trigger. -/
def triggerKeys : List (String × String) :=
  [("platform", "Trigger platform type"),
   ("trigger", "Trigger platform type"),
   ("entity_id", "Entity to monitor"),
   ("to", "State to transition to"),
   ("from", "State to transition from"),
   ("for", "Duration in state"),
   ("attribute", "Attribute to monitor"),
   ("id", "Trigger identifier"),
   ("variables", "Trigger-local variables")]

/-- The keys of an action. -/
def actionKeys : List (String × String) :=
  [("service", "Service to call"),
   ("action", "Action to call (alias for service)"),
   ("target", "Target entities/areas/devices"),
   ("data", "Service data"),
   ("entity_id", "Entity ID (in target)"),
   ("delay", "Delay before next action"),
   ("wait_template", "Wait for template to be true"),
   ("wait_for_trigger", "Wait for trigger"),
   ("repeat", "Repeat actions"),
   ("choose", "Conditional actions"),
   ("if", "If-then-else"),
   ("parallel", "Run actions in parallel"),
   ("sequence", "Sequence of actions"),
   ("variables", "Set variables"),
   ("stop", "Stop execution"),
   ("event", "Fire event")]

/-! ## Template functions -/

/-- A function of templates. -/
structure TemplateFunction where
  name : String
  detail : String
  /-- What is inserted, with numbered places to fill in. -/
  snippet : String
deriving DecidableEq, Repr

/-- The functions of templates. -/
def templateFunctions : List TemplateFunction :=
  [⟨"states", "Get entity state", "states('$1')"⟩,
   ⟨"is_state", "Check entity state", "is_state('$1', '$2')"⟩,
   ⟨"state_attr", "Get entity attribute", "state_attr('$1', '$2')"⟩,
   ⟨"is_state_attr", "Check entity attribute", "is_state_attr('$1', '$2', '$3')"⟩,
   ⟨"now", "Current datetime", "now()"⟩,
   ⟨"today_at", "Time today", "today_at('$1')"⟩,
   ⟨"as_timestamp", "Convert to timestamp", "as_timestamp($1)"⟩,
   ⟨"relative_time", "Human-readable time diff", "relative_time($1)"⟩,
   ⟨"float", "Convert to float", "float($1)"⟩,
   ⟨"int", "Convert to int", "int($1)"⟩,
   ⟨"area_entities", "Get area entities", "area_entities('$1')"⟩,
   ⟨"area_devices", "Get area devices", "area_devices('$1')"⟩,
   ⟨"device_entities", "Get device entities", "device_entities('$1')"⟩,
   ⟨"device_attr", "Get device attribute", "device_attr('$1', '$2')"⟩,
   ⟨"floor_areas", "Get floor areas", "floor_areas('$1')"⟩,
   ⟨"label_entities", "Get label entities", "label_entities('$1')"⟩]

end Vocabulary

end HomeConfig
