import HomeConfig.Editor.Session
import HomeConfig.Rehearsal.Script
import HomeConfig.Rehearsal.Timeline

/-!
# Rehearsing a session

A session is run on a timeline against a script.  What the editor tells or asks happens in the
present moment; a question that waits for replies lets time pass until it is answered.  A reply
without a delay comes before anything else happens.

The rehearsal records which requests were made, what was reported, and what was published.
-/

namespace HomeConfig

/-- A session that is rehearsed, and what has been recorded. -/
structure SessionRun where
  session : Session
  script : Script
  tree : FileTree
  /-- How long a document must be left alone before it is checked. -/
  debounce : Moment
  /-- How many questions were asked. -/
  asked : Nat
  /-- The last answer. -/
  answer : Option (Except Failure Answer)
  /-- Why the last thing that was told could not be taken over. -/
  refusal : Option Failure
  requests : List (Access × Endpoint)
  notices : List Notice
  published : List (String × List Diagnostic)

namespace SessionRun

/-- The start of a rehearsal. -/
def new (session : Session) (script : Script) (tree : FileTree) (debounce : Moment) : SessionRun :=
  ⟨session, script, tree, debounce, 0, none, none, [], [], []⟩

/-- The records emptied, for the next step. -/
def cleared (run : SessionRun) : SessionRun :=
  { run with answer := none, refusal := none, requests := [], notices := [], published := [] }

/-- Whether an event concerns a pass or a job that has not ended meanwhile. -/
def isLive (run : SessionRun) : Session.Event → Bool
  | .expired pass => (run.session.schedule.find? pass .waiting).isSome
  | .replied (.pass number) _ => run.session.checks.has number
  | _ => true

/-- A session that is rehearsed in time. -/
abbrev Scene := Timeline.Scene Moment Session.Event SessionRun

/-- Take an event to the session: what it wants done, and the scene afterwards. -/
def take (scene : Scene) (event : Session.Event) : List Session.Effect × Scene :=
  let run := scene.state
  let (effects, session) := run.session.step scene.timeline.now run.tree event
  (effects, { scene with state := { run with session := session } })

/-- Do one thing that the session wants done: what is wanted next because of it, and the scene
afterwards. -/
def performOne (scene : Scene) : Session.Effect → List Session.Effect × Scene
  | .send job access endpoint =>
    let run := scene.state
    let (cue, made, script) := run.script.send access endpoint
    let scene := { scene with
      state := { run with script := script, requests := run.requests ++ made } }
    if 0 < cue.delay then
      ([], { scene with
        timeline := scene.timeline.enter cue.delay (some (.replied job cue.reply)) })
    else take scene (.replied job cue.reply)
  | .publish uri found =>
    let run := scene.state
    ([], { scene with state := { run with published := run.published ++ [(uri, found)] } })
  | .countDown pass =>
    ([], { scene with timeline := scene.timeline.begin scene.state.debounce (.expired pass) })
  | .join request =>
    let timeline := scene.timeline.release scene.state.isLive
    ([], { scene with timeline := timeline.enter 0 (some (.gathered request)) })
  | .answer _ answer => ([], { scene with state := { scene.state with answer := some answer } })
  | .refuse cause => ([], { scene with state := { scene.state with refusal := some cause } })
  | .report notice =>
    let run := scene.state
    ([], { scene with state := { run with notices := run.notices ++ [notice] } })

/-- Do what the session wants done, and what is wanted because of it before what follows.  The
bound limits how much there may be to do. -/
def perform : (bound : Nat) → Scene → List Session.Effect → Scene
  | 0, scene, _ => scene
  | _, scene, [] => scene
  | bound + 1, scene, effect :: rest =>
    let (effects, scene) := performOne scene effect
    perform bound scene (effects ++ rest)

/-- The greatest number of things done in one moment, and of events while time passes. -/
def limit : Nat := 100000

/-- Let something happen to the session. -/
def happen (event : Session.Event) (scene : Scene) : Scene :=
  let (effects, scene) := take scene event
  perform limit scene effects

/-- How a session and events go together. -/
def rule : Timeline.Rule Moment Session.Event SessionRun :=
  ⟨isLive, happen⟩

/-- Let some time pass. -/
def pass (time : Moment) (scene : Scene) : Scene :=
  Timeline.pass rule limit time scene

/-- Ask a question, and let time pass until it is answered. -/
def ask (question : Question) (scene : Scene) : Scene :=
  let number := scene.state.asked
  let scene := { scene with state := { scene.state with asked := number + 1 } }
  Timeline.playUntil rule (·.answer.isSome) limit (happen (.asked number question) scene)

end SessionRun

end HomeConfig
