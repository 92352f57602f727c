import HomeConfig.Live.WarmUp
import HomeConfig.Rehearsal.Script
import HomeConfig.Rehearsal.Timeline

/-!
# Rehearsing activities

Activities are run against a script in a time of their own, which only moves when everything
waits.  Activities that are started together run in turn: each goes on until it has to wait, and
the one whose reply comes first goes on first.  A reply without a delay is no reason to wait.

The stage records which requests were made and what was reported.
-/

namespace HomeConfig

/-- A rehearsal: the store and the script, and what has been recorded. -/
structure Stage where
  script : Script
  store : Store
  /-- The time that the cache goes by. -/
  clock : Moment
  requests : List (Access × Endpoint)
  notices : List Notice

namespace Stage

/-- The stage at the start of a rehearsal. -/
def new (script : Script) (store : Store) (clock : Moment) : Stage :=
  ⟨script, store, clock, [], []⟩

/-- The stage with the records emptied, for the next step. -/
def cleared (stage : Stage) : Stage :=
  { stage with requests := [], notices := [] }

/-- Record that something was reported. -/
def report (stage : Stage) (notice : Notice) : Stage :=
  { stage with notices := stage.notices ++ [notice] }

/-- Send a request. -/
def send (stage : Stage) (access : Access) (endpoint : Endpoint) : Cue × Stage :=
  let (cue, made, script) := stage.script.send access endpoint
  (cue, { stage with script := script, requests := stage.requests ++ made })

variable {α : Type}

/-- Take over what a step of an activity left behind. -/
def absorb (stage : Stage) : Progress α × Store × List Notice → Progress α × Stage
  | (progress, store, notices) =>
    (progress, { stage with store := store, notices := stage.notices ++ notices })

/-- Start an activity. -/
def start (stage : Stage) (activity : Activity α) : Progress α × Stage :=
  stage.absorb (activity.advance stage.clock stage.store)

/-- Let an activity go on with a reply. -/
def resume (stage : Stage) (progress : Progress α) (reply : Reply) : Progress α × Stage :=
  stage.absorb (progress.resume stage.clock reply stage.store)

/-- Answer an activity as long as the replies come at once.  If it waits in the end, the delay and
the reply it waits for are given.  The bound limits how many requests it may make. -/
def follow : (bound : Nat) → Stage → Progress α → Progress α × Option Cue × Stage
  | 0, stage, progress => (progress, none, stage)
  | bound + 1, stage, progress =>
    match progress.request? with
    | none => (progress, none, stage)
    | some (access, endpoint) =>
      let (cue, stage) := stage.send access endpoint
      if 0 < cue.delay then (progress, some cue, stage)
      else
        let (progress, stage) := stage.resume progress cue.reply
        follow bound stage progress

/-- The greatest number of requests of one activity. -/
def requestLimit : Nat := 100

/-- An activity that waits for a reply, with its place among those started together. -/
structure Waiting (α : Type) where
  place : Nat
  progress : Progress α
  reply : Reply

/-- How far some activities have come that were started together. -/
structure Ensemble (α : Type) where
  stage : Stage
  finished : List (Nat × α)

/-- Activities that go on as their replies come. -/
abbrev Scene (α : Type) := Timeline.Scene Moment (Waiting α) (Ensemble α)

/-- Note where an activity stands after it has been followed. -/
def note (scene : Scene α) (place : Nat) : Progress α × Option Cue × Stage → Scene α
  | (.finished result, _, stage) =>
    { scene with state := ⟨stage, (place, result) :: scene.state.finished⟩ }
  | (progress, cue, stage) =>
    { state := { scene.state with stage := stage }
      timeline := cue.elim scene.timeline fun cue =>
        scene.timeline.enter cue.delay (some ⟨place, progress, cue.reply⟩) }

/-- Start activities, the first one at the given place. -/
def startAll (place : Nat) (scene : Scene α) : List (Activity α) → Scene α
  | [] => scene
  | activity :: rest =>
    let (progress, stage) := scene.state.stage.start activity
    startAll (place + 1) (note scene place (follow requestLimit stage progress)) rest

/-- Let an activity go on with its reply. -/
def goOn (waiting : Waiting α) (scene : Scene α) : Scene α :=
  let (progress, stage) := scene.state.stage.resume waiting.progress waiting.reply
  note scene waiting.place (follow requestLimit stage progress)

/-- Run activities together; their results stand in the order of the activities. -/
def runAll (stage : Stage) (activities : List (Activity α)) : List α × Stage :=
  let scene := startAll 0 ⟨.start 0, ⟨stage, []⟩⟩ activities
  let ensemble := (Timeline.playUntil ⟨fun _ _ => true, goOn⟩ (fun _ => false)
    (requestLimit * activities.length) scene).state
  ((List.range activities.length).filterMap fun place => List.lookup place ensemble.finished,
    ensemble.stage)

/-- Fetch together what nearly every question needs. -/
def warmUp (stage : Stage) : Stage :=
  if stage.store.isConnected then
    let (outcomes, stage) := stage.runAll WarmUp.parts
    stage.report (WarmUp.notice outcomes)
  else stage.report .warmUpSkipped

/-- Run one activity. -/
def run? (stage : Stage) (activity : Activity α) : Option α × Stage :=
  let (results, stage) := stage.runAll [activity]
  (results.head?, stage)

end Stage

end HomeConfig
