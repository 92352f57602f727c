import HomeConfig.Live.Query

/-!
# Warming up

The lists that nearly every question needs are fetched together when a session begins, so that
the first answer is quick.  Failures are reported and otherwise ignored.
-/

namespace HomeConfig

namespace WarmUp

/-- The lists that are fetched. -/
def registries : List Registry :=
  [.states, .services, .areas, .devices]

/-- The fetch of one list. -/
def part (registry : Registry) : Activity (Except Failure Unit) :=
  .list registry fun answer => .finish (answer.map fun _ => ())

/-- The fetches of all lists, to be made together. -/
def parts : List (Activity (Except Failure Unit)) :=
  registries.map part

/-- The lists that could not be fetched. -/
def failures (outcomes : List (Except Failure Unit)) : List (Registry × Failure) :=
  (registries.zip outcomes).filterMap fun
    | (registry, .error cause) => some (registry, cause)
    | (_, .ok _) => none

/-- What is reported when all fetches have ended. -/
def notice (outcomes : List (Except Failure Unit)) : Notice :=
  match failures outcomes with
  | [] => .warmedUp
  | failures => .warmUpFailed failures

/-- The fetches one after the other, as a part of something else. -/
def inTurn (isConnected : Bool) : Activity Unit := do
  if isConnected then Activity.report (notice (← parts.mapM id))
  else Activity.report .warmUpSkipped

end WarmUp

end HomeConfig
