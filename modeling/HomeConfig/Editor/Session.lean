import HomeConfig.Completion.Offer
import HomeConfig.Completion.Resolution
import HomeConfig.Diagnosis.Check
import HomeConfig.Editor.Documents
import HomeConfig.Editor.Schedule
import HomeConfig.Hover
import HomeConfig.Live.WarmUp
import HomeConfig.Navigation.Definition

/-!
# A session with an editor

A session holds what the server knows of one editor: the open documents, the schedule of their
checks, the store of live data, and the work that waits for replies.  `step` takes an event and
gives the effects that it has and the session afterwards.  Nothing else changes a session, so
whatever order the events come in is an order that `step` can be asked about.

Work in progress is a job: the check of a pass, a question of the editor, or one of the fetches
that warm up the store.  A job runs until it needs a reply, and what it reads is what the session
holds at that moment.  A document that is closed or changed takes no job away; only the end of the
session ends the checks.
-/

namespace HomeConfig

/-- What an editor can ask. -/
inductive Question
  | complete (uri : String) (position : Position)
  | hover (uri : String) (position : Position)
  | define (uri : String) (position : Position)
  | diagnose (uri : String)
  | resolve (item : Item)
  /-- The editor is ready. -/
  | initialized
  /-- Live data is to be fetched again. -/
  | refresh
  | shutDown

/-- What an editor is answered. -/
inductive Answer
  | nothing
  | completions (items : List Item)
  | hover (found : Hover)
  | location (found : Location)
  | diagnostics (found : List Diagnostic)
  | item (item : Item)
  | connected (isConnected : Bool)

/-- Work that waits for a reply. -/
inductive Job
  | pass (number : Nat)
  | request (number : Nat)
  /-- One of the fetches that a request made together. -/
  | warmUp (request place : Nat)
deriving DecidableEq, Repr

/-- Fetches that were begun together, and the answer that is given when all have ended. -/
structure Gathering where
  strands : List (Progress (Except Failure Unit))
  answer : Answer

namespace Gathering

/-- How the fetches ended that have ended. -/
def outcomes (gathering : Gathering) : List (Except Failure Unit) :=
  gathering.strands.filterMap fun
    | .finished outcome => some outcome
    | _ => none

/-- Whether all fetches have ended. -/
def isComplete (gathering : Gathering) : Bool :=
  gathering.outcomes.length == gathering.strands.length

end Gathering

/-- What the server knows of an editor. -/
structure Session where
  /-- Where secrets are looked for last. -/
  sharedSecrets : Option Path
  store : Store
  documents : Documents
  schedule : Schedule
  /-- The checks that wait for a reply, by pass. -/
  checks : Table Nat (Progress (List Diagnostic))
  /-- The questions that wait for a reply. -/
  requests : Table Nat (Progress Answer)
  gatherings : Table Nat Gathering

namespace Session

/-- What can happen to a session. -/
inductive Event
  | opened (uri : String) (text : Text)
  | changed (uri : String) (changes : List Change)
  | closed (uri : String)
  | asked (request : Nat) (question : Question)
  /-- The countdown of a pass has run out. -/
  | expired (pass : Nat)
  | replied (job : Job) (reply : Reply)
  /-- What was joined is to go on. -/
  | gathered (request : Nat)

/-- What a session wants done. -/
inductive Effect
  | send (job : Job) (access : Access) (endpoint : Endpoint)
  | publish (uri : String) (found : List Diagnostic)
  | countDown (pass : Nat)
  /-- All fetches of a request have ended; it goes on when what happens at once has happened. -/
  | join (request : Nat)
  | answer (request : Nat) (answer : Except Failure Answer)
  /-- What an editor told could not be taken over. -/
  | refuse (cause : Failure)
  | report (notice : Notice)

/-- A session without documents. -/
def new (sharedSecrets : Option Path) (store : Store) : Session :=
  ⟨sharedSecrets, store, .empty, .empty, .empty, .empty, .empty⟩

/-- The text of an open document of settings. -/
def text? (session : Session) (uri : String) : Option Text :=
  session.documents.text? uri

/-! ## Documents -/

/-- The findings that an editor is to show for a document. -/
def push (uri : String) (found : List Diagnostic) : List Effect :=
  [.report (.publishing found.length uri), .publish uri found]

/-- Ask for a check of a document. -/
def scheduled (session : Session) (uri : String) : List Effect × Session :=
  ([.countDown (session.schedule.issued + 1)],
    { session with schedule := session.schedule.schedule uri })

/-- A document is opened. -/
def opened (session : Session) (uri : String) (text : Text) : List Effect × Session :=
  if Uri.isYaml uri then
    match session.documents.open uri text with
    | .ok documents => { session with documents := documents }.scheduled uri
    | .error cause => ([.refuse cause], session)
  else ([], session)

/-- A document is changed. -/
def changed (session : Session) (uri : String) (changes : List Change) :
    List Effect × Session :=
  match session.text? uri with
  | some _ => { session with documents := session.documents.change uri changes }.scheduled uri
  | none => ([], session)

/-- A document is closed. -/
def closed (session : Session) (uri : String) : List Effect × Session :=
  if Uri.isYaml uri then
    (push uri [], { session with
      documents := session.documents.close uri
      schedule := session.schedule.cancel uri })
  else ([], session)

/-! ## Checks -/

/-- What a verdict makes the session do. -/
def conclude : Option (Schedule.Verdict (List Diagnostic)) → List Effect
  | none => []
  | some (.publish uri found) => push uri found
  | some (.report notice) => [.report notice]

/-- The end of a pass. -/
def passed (session : Session) (number : Nat) (outcome : CheckOutcome (List Diagnostic)) :
    List Effect × Session :=
  let (verdict, schedule) := session.schedule.complete number outcome
  (conclude verdict, { session with
    schedule := schedule
    checks := session.checks.erase number })

/-- Take over how far the check of a pass has come. -/
def followCheck (session : Session) (number : Nat) :
    Progress (List Diagnostic) × Store × List Notice → List Effect × Session
  | (progress, store, notices) =>
    let session := { session with store := store }
    let (effects, session) : List Effect × Session := match progress with
      | .finished found => session.passed number (.found found)
      | waiting => (
          waiting.request?.toList.map fun (access, endpoint) =>
            .send (.pass number) access endpoint,
          { session with checks := session.checks.insert number waiting })
    (notices.map .report ++ effects, session)

/-- The check of an open document. -/
def check (session : Session) (tree : FileTree) (uri : String) (text : Text) :
    Activity (List Diagnostic) :=
  validate session.store.isConnected ⟨text, some uri, tree⟩

/-- The countdown of a pass has run out. -/
def expired (session : Session) (now : Moment) (tree : FileTree) (number : Nat) :
    List Effect × Session :=
  match session.schedule.expire? number with
  | none => ([], session)
  | some (pass, schedule) =>
    let session := { session with schedule := schedule }
    match session.text? pass.uri with
    | none => session.passed number .gone
    | some text =>
      session.followCheck number ((session.check tree pass.uri text).advance now session.store)

/-! ## Warming up -/

/-- Begin activities one after the other. -/
def beginAll {α : Type} (now : Moment) :
    List (Activity α) → Store → List (Progress α) × Store × List Notice
  | [], store => ([], store, [])
  | activity :: rest, store =>
    let (progress, store, notices) := activity.advance now store
    let (others, store, later) := beginAll now rest store
    (progress :: others, store, notices ++ later)

/-- Keep fetches that were begun together, or go on if all have ended. -/
def gather (session : Session) (number : Nat) (gathering : Gathering) : List Effect × Session :=
  (if gathering.isComplete then [.join number] else [],
    { session with gatherings := session.gatherings.insert number gathering })

/-- Fetch what nearly every question needs, and answer then. -/
def warmUp (session : Session) (now : Moment) (number : Nat) (answer : Answer) :
    List Effect × Session :=
  if session.store.isConnected then
    let (strands, store, notices) := beginAll now WarmUp.parts session.store
    let sends := strands.zipIdx.flatMap fun (strand, place) =>
      strand.request?.toList.map fun (access, endpoint) =>
        .send (.warmUp number place) access endpoint
    let (effects, session) := { session with store := store }.gather number ⟨strands, answer⟩
    (notices.map .report ++ sends ++ effects, session)
  else ([.report .warmUpSkipped, .answer number (.ok answer)], session)

/-- A fetch has its reply. -/
def fetched (session : Session) (now : Moment) (number place : Nat) (reply : Reply)
    (gathering : Gathering) : List Effect × Session :=
  match gathering.strands[place]? with
  | none => ([], session)
  | some strand =>
    let (progress, store, notices) := strand.resume now reply session.store
    let sends := progress.request?.toList.map fun (access, endpoint) =>
      .send (.warmUp number place) access endpoint
    let strands := gathering.strands.set place progress
    let (effects, session) :=
      { session with store := store }.gather number { gathering with strands := strands }
    (notices.map .report ++ sends ++ effects, session)

/-- All fetches of a request have ended. -/
def gathered (session : Session) (number : Nat) : List Effect × Session :=
  match session.gatherings.find? number with
  | none => ([], session)
  | some gathering =>
    ([.report (WarmUp.notice gathering.outcomes), .answer number (.ok gathering.answer)],
      { session with gatherings := session.gatherings.erase number })

/-! ## Questions -/

/-- Take over how far the answer to a question has come. -/
def followRequest (session : Session) (number : Nat) :
    Progress Answer × Store × List Notice → List Effect × Session
  | (progress, store, notices) =>
    let session := { session with store := store }
    let (effects, session) : List Effect × Session := match progress with
      | .finished found => (
          [.answer number (.ok found)],
          { session with requests := session.requests.erase number })
      | waiting => (
          waiting.request?.toList.map fun (access, endpoint) =>
            .send (.request number) access endpoint,
          { session with requests := session.requests.insert number waiting })
    (notices.map .report ++ effects, session)

/-- Answer a question by an activity. -/
def answerBy (session : Session) (now : Moment) (number : Nat) (activity : Activity Answer) :
    List Effect × Session :=
  session.followRequest number (activity.advance now session.store)

/-- Answer a question about an open document; the answer about any other is given. -/
def answerAbout (session : Session) (now : Moment) (number : Nat) (uri : String)
    (otherwise : Answer) (activity : Text → Activity Answer) : List Effect × Session :=
  match session.text? uri with
  | some text => session.answerBy now number (activity text)
  | none => ([.answer number (.ok otherwise)], session)

/-- Where a place of a document leads. -/
def define (session : Session) (tree : FileTree) (uri : String) (position : Position) :
    Except Failure (List Notice × Answer) := do
  match session.text? uri with
  | none => return ([], .nothing)
  | some text =>
    let found ← Destination.find tree session.sharedSecrets text uri position.line
    return (found.notices, (← found.location?).elim .nothing .location)

/-- The end of the session: no check is made any more, and no connection is open. -/
def shutDown (session : Session) : Session :=
  { session with
    schedule := session.schedule.shutDown
    checks := .empty
    store := session.store.close }

/-- The editor asks something. -/
def asked (session : Session) (now : Moment) (tree : FileTree) (number : Nat) :
    Question → List Effect × Session
  | .complete uri position =>
    session.answerAbout now number uri .nothing fun text =>
      .completions <$> HomeConfig.complete text position
  | .hover uri position =>
    session.answerAbout now number uri .nothing fun text =>
      (fun found => found.elim .nothing .hover) <$>
        Hover.find session.store.isConnected text position
  | .define uri position =>
    match session.define tree uri position with
    | .ok (notices, answer) => (notices.map .report ++ [.answer number (.ok answer)], session)
    | .error cause => ([.answer number (.error cause)], session)
  | .diagnose uri =>
    session.answerAbout now number uri (.diagnostics []) fun text =>
      .diagnostics <$> session.check tree uri text
  | .resolve item => session.answerBy now number (.item <$> item.resolve)
  | .initialized =>
    let (effects, session) := session.warmUp now number .nothing
    (.report .started :: effects, session)
  | .refresh =>
    { session with store := session.store.invalidate }.warmUp now number
      (.connected session.store.isConnected)
  | .shutDown => ([.answer number (.ok .nothing)], session.shutDown)

/-! ## Events -/

/-- A job has its reply.  A reply to a job that has been ended is ignored. -/
def replied (session : Session) (now : Moment) (reply : Reply) : Job → List Effect × Session
  | .pass number =>
    match session.checks.find? number with
    | some progress => session.followCheck number (progress.resume now reply session.store)
    | none => ([], session)
  | .request number =>
    match session.requests.find? number with
    | some progress => session.followRequest number (progress.resume now reply session.store)
    | none => ([], session)
  | .warmUp number place =>
    match session.gatherings.find? number with
    | some gathering => session.fetched now number place reply gathering
    | none => ([], session)

/-- What an event makes a session do, and the session afterwards. -/
def step (now : Moment) (tree : FileTree) (session : Session) : Event → List Effect × Session
  | .opened uri text => session.opened uri text
  | .changed uri changes => session.changed uri changes
  | .closed uri => session.closed uri
  | .asked number question => session.asked now tree number question
  | .expired number => session.expired now tree number
  | .replied job reply => session.replied now reply job
  | .gathered number => session.gathered number

end Session

end HomeConfig
