import HomeConfig.Json.Writer
import HomeConfig.Rehearsal.Script

/-!
# Written scripts

A script is written as an object: under the name of a registry, of an entity or of a template stand
its replies, a single one or a list.  A reply has a body, either a value or a text, and may have a
status, a content type and a delay; or it names the way in which the request fails.
-/

namespace HomeConfig

/-- The time that a value writes. -/
def Moment.ofJson : Json → Moment
  | .integer seconds => Binary64.ofInt seconds
  | .number seconds => seconds
  | _ => 0

namespace Outage

/-- The names of failures that count as a timeout. -/
def timeouts : List String := ["ConnectTimeout", "ReadTimeout", "WriteTimeout", "PoolTimeout"]

/-- The failure with a name. -/
def named (name : String) : Outage :=
  if name = "ConnectError" then .refused
  else if timeouts.contains name then .timedOut
  else if name = "InvalidURL" then .invalidAddress
  else .other name

end Outage

namespace Cue

/-- The body of a written reply, and its content type unless another one is written. -/
def body (written : Json) : String × String :=
  match written.get? "json", written.get? "text" with
  | some value, _ => (Json.render .spaced value, "application/json")
  | none, some (.string text) => (text, "text/plain; charset=utf-8")
  | none, _ => ("", "text/plain; charset=utf-8")

/-- The reply that an object writes. -/
def writtenReply (written : Json) : Reply :=
  match written.get? "fail" with
  | some (.string name) => .error (.named name)
  | _ =>
    let (body, usual) := body written
    let status := match written.get? "status" with
      | some (.integer status) => status
      | _ => 200
    let type := match written.get? "content_type" with
      | some (.string type) => some type
      | some _ => none
      | none => some usual
    .ok ⟨status, type, body⟩

/-- The reply that an object writes, with its delay. -/
def ofJson (written : Json) : Cue :=
  ⟨.ofJson ((written.get? "delay").getD .null), writtenReply written⟩

/-- One reply or several. -/
def allOfJson : Json → List Cue
  | .array written => written.map ofJson
  | written => [ofJson written]

end Cue

namespace Script

/-- The registries in a script. -/
def registries : List Registry := [.states, .services, .areas, .devices, .floors, .labels]

/-- The replies under the members of a part of a script. -/
def part (written : Json) (name : String) (endpoint : String → Endpoint) :
    List (Endpoint × List Cue) :=
  match written.get? name with
  | some (.object members) => members.map fun (key, cues) => (endpoint key, Cue.allOfJson cues)
  | _ => []

/-- The script that an object writes. -/
def ofJson (written : Json) : Script where
  cues := (registries.map fun registry =>
      (registry.endpoint, ((written.get? registry.name).map Cue.allOfJson).getD [missing])) ++
    part written "entities" .entity ++ part written "templates" .template
  templates := ((written.get? "template").map Cue.allOfJson).getD []

end Script

end HomeConfig
