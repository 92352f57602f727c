import HomeConfig.Editor.Session
import HomeConfig.Proofs.Schedule.Publication

/-!
# Runs of a session

A run is a list of ticks: events, each with the time at which it happens and the files as they are
then.  Any event may come at any time, so a run is any order of edits, countdowns, replies and
questions.  A reply that nothing waits for, and a countdown of a pass that is gone, change nothing.

What is published depends on three parts of a session only, its `Desk`: the documents, the schedule
and the checks that wait for replies.  The store, the questions and the warming up stand beside it.
-/

namespace HomeConfig

namespace Session

/-- Something that happens to a session, and when. -/
structure Tick where
  now : Moment
  tree : FileTree
  event : Event

/-- An event that happens when there are no files, at the time that the clock begins with. -/
def Tick.bare (event : Event) : Tick :=
  ⟨0, ⟨[], []⟩, event⟩

/-- A session without access to live data. -/
def offline : Session :=
  new none (.new none (Binary64.ofInt 60))

/-- A session with access to live data, which nothing has been fetched from. -/
def online : Session :=
  new none (.new (some ⟨"http://home.test/api", "token", 30⟩) (Binary64.ofInt 60))

/-- The session after a tick. -/
def next (session : Session) (tick : Tick) : Session :=
  (session.step tick.now tick.tree tick.event).2

/-- The session after some ticks, the first of them first. -/
def after (session : Session) (ticks : List Tick) : Session :=
  ticks.foldl next session

@[simp] theorem after_nil (session : Session) : session.after [] = session :=
  rfl

@[simp] theorem after_cons (session : Session) (tick : Tick) (later : List Tick) :
    session.after (tick :: later) = (session.next tick).after later :=
  rfl

@[simp] theorem after_append (session : Session) (before later : List Tick) :
    session.after (before ++ later) = (session.after before).after later :=
  List.foldl_append

/-! ## Lists -/

/-- Lists of findings, each with its document. -/
abbrev Lists := List (String × List Diagnostic)

/-- The lists that some effects publish. -/
def lists (effects : List Effect) : Lists :=
  effects.filterMap fun
    | .publish uri found => some (uri, found)
    | _ => none

/-- The lists that a tick publishes. -/
def published (session : Session) (tick : Tick) : Lists :=
  lists (session.step tick.now tick.tree tick.event).1

/-- The lists that a run publishes, in their order. -/
def publications : Session → List Tick → Lists
  | _, [] => []
  | session, tick :: later => session.published tick ++ publications (session.next tick) later

/-- The list that an editor shows for a document: the last one of those that were published. -/
def shown? (uri : String) (published : Lists) : Option (List Diagnostic) :=
  published.reverse.lookup uri

@[simp] theorem shown?_nil (uri : String) : shown? uri [] = none :=
  rfl

theorem shown?_append (uri : String) (before later : Lists) :
    shown? uri (before ++ later) = (shown? uri later).or (shown? uri before) := by
  rw [shown?, List.reverse_append, List.lookup_append]
  rfl

theorem shown?_singleton (uri other : String) (found : List Diagnostic) :
    shown? uri [(other, found)] = if uri = other then some found else none := by
  by_cases same : uri = other
  · simp [shown?, same]
  · have different : (uri == other) = false := by simpa using same
    simp [shown?, List.lookup_cons, same, different]

theorem publications_append (session : Session) (before later : List Tick) :
    session.publications (before ++ later) =
      session.publications before ++ (session.after before).publications later := by
  induction before generalizing session with
  | nil => rfl
  | cons tick rest inductionHypothesis =>
    simp only [List.cons_append, publications, after_cons, inductionHypothesis, List.append_assoc]

theorem publications_concat (session : Session) (ticks : List Tick) (tick : Tick) :
    session.publications (ticks ++ [tick]) =
      session.publications ticks ++ (session.after ticks).published tick := by
  rw [publications_append, publications, publications, List.append_nil]

@[simp] theorem lists_append (before later : List Effect) :
    lists (before ++ later) = lists before ++ lists later :=
  List.filterMap_append

@[simp] theorem lists_reports (notices : List Notice) : lists (notices.map .report) = [] := by
  simp [lists]

/-- A request is sent to Home Assistant, not to the editor. -/
@[simp] theorem lists_sends (job : Job) (request : Option (Access × Endpoint)) :
    lists (request.toList.map fun (access, endpoint) => .send job access endpoint) = [] := by
  cases request <;> rfl

/-! ## The desk -/

/-- What decides on the lists that are published. -/
structure Desk where
  documents : Documents
  schedule : Schedule
  checks : Table Nat (Progress (List Diagnostic))

/-- The part of a session that decides on the lists that are published. -/
def desk (session : Session) : Desk :=
  ⟨session.documents, session.schedule, session.checks⟩

/-- Take over how far the check of a pass has come: keep it while it waits for a reply, and end the
pass with what it has found. -/
def Desk.follow (desk : Desk) (number : Nat) : Progress (List Diagnostic) → Lists × Desk
  | .finished found =>
    let ending : Schedule.Event (List Diagnostic) := .complete number (.found found)
    ((desk.schedule.published? ending).toList.map fun made => (made.uri, made.result),
      { desk with schedule := desk.schedule.next ending, checks := desk.checks.erase number })
  | waiting => ([], { desk with checks := desk.checks.insert number waiting })

@[simp] theorem Desk.follow_documents (desk : Desk) (number : Nat)
    (progress : Progress (List Diagnostic)) :
    (desk.follow number progress).2.documents = desk.documents := by
  cases progress <;> rfl

/-- The end of a pass leaves every document its latest pass. -/
@[simp] theorem Desk.follow_latest (desk : Desk) (number : Nat)
    (progress : Progress (List Diagnostic)) :
    (desk.follow number progress).2.schedule.latest = desk.schedule.latest := by
  cases progress with
  | finished found =>
    exact (Schedule.change_next desk.schedule (.complete number (.found found))).latest
  | listing _ _ _ _ => rfl
  | reading _ _ _ => rfl

theorem lists_conclude (schedule : Schedule) (number : Nat)
    (outcome : CheckOutcome (List Diagnostic)) :
    lists (conclude (schedule.complete number outcome).1) =
      (schedule.published? (.complete number outcome)).toList.map
        fun made => (made.uri, made.result) := by
  cases verdict : (schedule.complete number outcome).1 with
  | none => simp [Schedule.published?, verdict, conclude, lists]
  | some ending =>
    cases ending <;> simp [Schedule.published?, verdict, conclude, lists, push]

theorem followCheck_eq_follow (session : Session) (number : Nat)
    (progress : Progress (List Diagnostic)) (store : Store) (notices : List Notice) :
    lists (session.followCheck number (progress, store, notices)).1 =
        (session.desk.follow number progress).1 ∧
      (session.followCheck number (progress, store, notices)).2.desk =
        (session.desk.follow number progress).2 := by
  cases progress with
  | finished found =>
    simp only [followCheck, passed, lists_append, lists_reports, List.nil_append, lists_conclude]
    exact ⟨rfl, rfl⟩
  | listing access registry previous next =>
    simp only [followCheck, lists_append, lists_reports, lists_sends, List.nil_append]
    exact ⟨rfl, rfl⟩
  | reading access endpoint next =>
    simp only [followCheck, lists_append, lists_reports, lists_sends, List.nil_append]
    exact ⟨rfl, rfl⟩

end Session

end HomeConfig
