import HomeConfig.Notice
import HomeConfig.Table

/-!
# When documents are checked

A document is not checked at every change but when it has been left alone for a while.  Every
request for a check is a pass with a number of its own.  A pass waits for its countdown, and a new
request for the document, or the end of the document, takes a waiting pass away.  A pass whose
countdown has run out is running, and goes on to its end whatever is asked meanwhile.  But its
result counts only if it is still the pass that was asked for last.

The schedule knows neither times nor documents.  `step` takes what happens and gives what is to be
done: a countdown to begin, a check to make, a result to publish.  Results are of any type.
-/

namespace HomeConfig

/-- How the check of a document ended. -/
inductive CheckOutcome (δ : Type)
  | found (result : δ)
  /-- The document is no longer open. -/
  | gone
  | failed

/-- How far a pass has come. -/
inductive Pass.Phase
  | waiting
  | running
deriving DecidableEq, Repr

/-- A request for a check. -/
structure Pass where
  number : Nat
  uri : String
  phase : Pass.Phase
deriving DecidableEq, Repr

/-- The passes that have not ended. -/
structure Schedule where
  /-- How many passes there have been. -/
  issued : Nat
  /-- The pass that was last asked for, of each document that has not been forgotten since. -/
  latest : Table String Nat
  /-- The pass that waits, of each document that has one. -/
  pending : Table String Nat
  passes : List Pass

namespace Schedule

/-- What can happen. -/
inductive Event (δ : Type)
  /-- A check of a document is asked for. -/
  | schedule (uri : String)
  /-- A document is forgotten. -/
  | cancel (uri : String)
  /-- The countdown of a pass has run out. -/
  | expire (number : Nat)
  /-- The check of a pass has ended. -/
  | complete (number : Nat) (outcome : CheckOutcome δ)
  | shutDown

/-- What becomes of a pass that has ended. -/
inductive Verdict (δ : Type)
  | publish (uri : String) (result : δ)
  | report (notice : Notice)

/-- What is to be done. -/
inductive Effect (δ : Type)
  | countDown (number : Nat)
  | check (number : Nat) (uri : String)
  | conclude (verdict : Verdict δ)

/-- A schedule without passes. -/
def empty : Schedule :=
  ⟨0, .empty, .empty, []⟩

/-- The pass with a number, if it has come as far as given. -/
def find? (schedule : Schedule) (number : Nat) (phase : Pass.Phase) : Option Pass :=
  schedule.passes.find? fun pass => pass.number = number ∧ pass.phase = phase

/-- Some passes without the one that has a number. -/
def without (number : Option Nat) (passes : List Pass) : List Pass :=
  passes.filter fun pass => some pass.number != number

/-- Some passes with the one that has a number running. -/
def begin (number : Nat) (passes : List Pass) : List Pass :=
  passes.map fun pass => if pass.number = number then { pass with phase := .running } else pass

/-- Ask for a check of a document. -/
def schedule (state : Schedule) (uri : String) : Schedule :=
  let number := state.issued + 1
  { issued := number
    latest := state.latest.insert uri number
    pending := state.pending.insert uri number
    passes := without (state.pending.find? uri) state.passes ++ [⟨number, uri, .waiting⟩] }

/-- Forget a document. -/
def cancel (state : Schedule) (uri : String) : Schedule :=
  { state with
    latest := state.latest.erase uri
    pending := state.pending.erase uri
    passes := without (state.pending.find? uri) state.passes }

/-- Let a waiting pass run. -/
def start (state : Schedule) (pass : Pass) : Schedule :=
  { state with
    pending :=
      if state.pending.find? pass.uri = some pass.number then state.pending.erase pass.uri
      else state.pending
    passes := begin pass.number state.passes }

/-- The pass that runs when its countdown has run out; `none` if it has been taken away. -/
def expire? (state : Schedule) (number : Nat) : Option (Pass × Schedule) :=
  (state.find? number .waiting).map fun pass => (pass, state.start pass)

/-- End every pass. -/
def shutDown (state : Schedule) : Schedule :=
  { state with latest := .empty, pending := .empty, passes := [] }

variable {δ : Type}

/-- What becomes of a pass with a given outcome. -/
def verdict? (state : Schedule) (pass : Pass) : CheckOutcome δ → Option (Verdict δ)
  | .failed => some (.report (.passFailed pass.uri))
  | .gone => none
  | .found result =>
    if state.latest.find? pass.uri = some pass.number then some (.publish pass.uri result)
    else some (.report (.passSuperseded pass.uri))

/-- End a running pass. -/
def complete (state : Schedule) (number : Nat) (outcome : CheckOutcome δ) :
    Option (Verdict δ) × Schedule :=
  match state.find? number .running with
  | some pass =>
    (state.verdict? pass outcome, { state with passes := without (some number) state.passes })
  | none => (none, state)

/-- What is to be done when something happens, and the schedule afterwards.  What concerns a pass
that has been taken away or has ended is ignored. -/
def step (state : Schedule) : Event δ → List (Effect δ) × Schedule
  | .schedule uri => ([.countDown (state.issued + 1)], state.schedule uri)
  | .cancel uri => ([], state.cancel uri)
  | .expire number =>
    match state.expire? number with
    | some (pass, state) => ([.check pass.number pass.uri], state)
    | none => ([], state)
  | .complete number outcome =>
    let (verdict, state) := state.complete number outcome
    (verdict.toList.map .conclude, state)
  | .shutDown => ([], state.shutDown)

end Schedule

end HomeConfig
