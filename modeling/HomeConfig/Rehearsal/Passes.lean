import HomeConfig.Editor.Schedule
import HomeConfig.Rehearsal.Timeline

/-!
# Rehearsing a schedule

The schedule of checks is run on a timeline, with checks that go by a plan: for each document how
long a check takes and how it ends.  A plan holds for the checks that begin after it was made.
-/

namespace HomeConfig

/-- How a check is to go; without a duration it ends at once. -/
structure Plan (τ δ : Type) where
  duration : Option τ
  outcome : CheckOutcome δ

/-- What a rehearsal shows. -/
inductive Sign (δ : Type)
  | checked (uri : String)
  | published (uri : String) (result : δ)

/-- A schedule that is rehearsed, and what has been recorded. -/
structure PassRun (τ δ : Type) where
  /-- How long a countdown takes. -/
  delay : τ
  schedule : Schedule
  plans : Table String (Plan τ δ)
  /-- How a check goes that has no plan. -/
  otherwise : Plan τ δ
  signs : List (Sign δ)
  notices : List Notice

namespace PassRun

variable {τ δ : Type}

/-- Record what becomes of a pass. -/
def conclude (run : PassRun τ δ) : Schedule.Verdict δ → PassRun τ δ
  | .publish uri result => { run with signs := run.signs ++ [.published uri result] }
  | .report notice => { run with notices := run.notices ++ [notice] }

/-- The records emptied, for the next step. -/
def cleared (run : PassRun τ δ) : PassRun τ δ :=
  { run with signs := [], notices := [] }

/-- Make a plan for a document. -/
def plan (run : PassRun τ δ) (uri : String) (plan : Plan τ δ) : PassRun τ δ :=
  { run with plans := run.plans.insert uri plan }

/-- A schedule that is rehearsed in time. -/
abbrev Scene (τ δ : Type) := Timeline.Scene τ (Schedule.Event δ) (PassRun τ δ)

variable [Add τ] [OfNat τ 0] [LT τ] [DecidableLT τ]

/-- End a check that is running. -/
def finish (scene : Scene τ δ) (number : Nat) (outcome : CheckOutcome δ) : Scene τ δ :=
  let (verdict, schedule) := scene.state.schedule.complete number outcome
  let state := { scene.state with schedule := schedule }
  { scene with state := verdict.elim state state.conclude }

/-- Begin the check of a document as planned. -/
def check (scene : Scene τ δ) (number : Nat) (uri : String) : Scene τ δ :=
  let plan := (scene.state.plans.find? uri).getD scene.state.otherwise
  let scene := { scene with
    state := { scene.state with signs := scene.state.signs ++ [.checked uri] } }
  match plan.duration with
  | none => finish scene number plan.outcome
  | some duration =>
    { scene with
      timeline := scene.timeline.enter duration (some (.complete number plan.outcome)) }

/-- Do what the schedule wants done. -/
def perform (scene : Scene τ δ) : Schedule.Effect δ → Scene τ δ
  | .countDown number =>
    { scene with timeline := scene.timeline.begin scene.state.delay (.expire number) }
  | .check number uri => check scene number uri
  | .conclude verdict => { scene with state := scene.state.conclude verdict }

/-- Let something happen to the schedule. -/
def happen (event : Schedule.Event δ) (scene : Scene τ δ) : Scene τ δ :=
  let (effects, schedule) := scene.state.schedule.step event
  effects.foldl perform { scene with state := { scene.state with schedule := schedule } }

/-- Whether what happens to a schedule concerns a pass that has not ended meanwhile. -/
def isLive (run : PassRun τ δ) : Schedule.Event δ → Bool
  | .expire number => (run.schedule.find? number .waiting).isSome
  | .complete number _ => (run.schedule.find? number .running).isSome
  | _ => true

/-- Let some time pass.  The bound is never exceeded: a countdown that runs out may begin a check,
and a check that ends begins nothing. -/
def pass (time : τ) (scene : Scene τ δ) : Scene τ δ :=
  Timeline.pass ⟨isLive, happen⟩ (2 * scene.timeline.size + 1) time scene

end PassRun

end HomeConfig
