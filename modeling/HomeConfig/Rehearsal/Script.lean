import HomeConfig.Live.Activity
import HomeConfig.Live.Address

/-!
# Scripted replies

A script plays the part of Home Assistant.  For every endpoint it holds the replies it will give,
one for each request, of which the last one is repeated.  What is not in the script is missing.
-/

namespace HomeConfig

/-- A scripted reply, and how long it takes. -/
structure Cue where
  delay : Moment
  reply : Reply

/-- The replies of a script. -/
structure Script where
  /-- The replies of single endpoints. -/
  cues : List (Endpoint × List Cue)
  /-- The replies to templates that have none of their own. -/
  templates : List Cue

namespace Script

/-- The answer of an endpoint that is not in the script. -/
def missing : Cue :=
  ⟨0, .ok ⟨404, some "text/plain; charset=utf-8", ""⟩⟩

/-- The next reply among some, and the ones that remain. -/
def draw : List Cue → Cue × List Cue
  | [] => (missing, [])
  | [last] => (last, [last])
  | cue :: rest => (cue, rest)

/-- The next reply of an endpoint, if it is in a list. -/
def drawFrom (endpoint : Endpoint) :
    List (Endpoint × List Cue) → Option (Cue × List (Endpoint × List Cue))
  | [] => none
  | (other, cues) :: rest =>
    if other = endpoint then
      let (cue, cues) := draw cues
      some (cue, (other, cues) :: rest)
    else (drawFrom endpoint rest).map fun (cue, rest) => (cue, (other, cues) :: rest)

/-- The reply to the next request to an endpoint. -/
def reply (script : Script) (endpoint : Endpoint) : Cue × Script :=
  match drawFrom endpoint script.cues with
  | some (cue, cues) => (cue, { script with cues := cues })
  | none =>
    match endpoint with
    | .template _ =>
      let (cue, templates) := draw script.templates
      (cue, { script with templates := templates })
    | _ => (missing, script)

/-- Send a request: its reply, the requests that were made, and the script afterwards.  A request
that cannot be sent fails at once and is not made. -/
def send (script : Script) (access : Access) (endpoint : Endpoint) :
    Cue × List (Access × Endpoint) × Script :=
  match access.address? endpoint with
  | some _ =>
    let (cue, script) := script.reply endpoint
    (cue, [(access, endpoint)], script)
  | none => (⟨0, .error .invalidAddress⟩, [], script)

end Script

end HomeConfig
