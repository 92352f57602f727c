import HomeConfig.Proofs.Session.Run

/-!
# What a tick can do

`Move` says once what becomes of a desk in a tick, and which lists the tick publishes.  Every tick
is a move (`move_next`), so what runs keep is proved by going through the moves, and the step of a
session is not opened again.

A countdown that runs out is one move or the other according to whether its document is found; one
whose check ends without waiting is not told apart from one whose check goes on, since both are
followed in the same way.
-/

namespace HomeConfig

namespace Session

/-- Whether a document can be opened under an address: one of settings, and well formed. -/
def admits (uri : String) : Bool :=
  Uri.isYaml uri && (Uri.ofText uri.toList).isOk

/-- An event that concerns no document that is open and no check that is under way.  Questions are
such events, except for the one that ends the session. -/
def Ignores (session : Session) : Event → Prop
  | .opened uri _ => admits uri = false
  | .changed uri _ => session.text? uri = none
  | .closed uri => Uri.isYaml uri = false
  | .expired number => session.schedule.find? number .waiting = none
  | .replied (.pass number) _ => session.checks.find? number = none
  | .replied _ _ => True
  | .asked _ .shutDown => False
  | .asked _ _ => True
  | .gathered _ => True

/-- Everything that a tick can do to a desk, with the lists that it publishes. -/
inductive Move (session : Session) (tick : Tick) : Lists → Desk → Prop
  | opened {uri : String} {text : Text} (happens : tick.event = .opened uri text)
      (admitted : admits uri = true) :
      Move session tick [] { session.desk with
        documents := session.documents.insert (Percent.decodeString uri) text
        schedule := session.schedule.schedule uri }
  | changed {uri : String} {changes : List Change} (happens : tick.event = .changed uri changes)
      (present : (session.text? uri).isSome) :
      Move session tick [] { session.desk with
        documents := session.documents.change uri changes
        schedule := session.schedule.schedule uri }
  | closed {uri : String} (happens : tick.event = .closed uri) (isYaml : Uri.isYaml uri = true) :
      Move session tick [(uri, [])] { session.desk with
        documents := session.documents.close uri
        schedule := session.schedule.cancel uri }
  | gone {number : Nat} {pass : Pass} (happens : tick.event = .expired number)
      (waiting : session.schedule.find? number .waiting = some pass)
      (missing : session.text? pass.uri = none) :
      Move session tick [] { session.desk with
        schedule := (session.schedule.start pass).next
          (.complete number .gone : Schedule.Event (List Diagnostic))
        checks := session.checks.erase number }
  | begun {number : Nat} {pass : Pass} {text : Text} {progress : Progress (List Diagnostic)}
      (happens : tick.event = .expired number)
      (waiting : session.schedule.find? number .waiting = some pass)
      (present : session.text? pass.uri = some text)
      (reaches : ((session.check tick.tree pass.uri text).advance tick.now session.store).1 =
        progress) :
      Move session tick
        ({ session.desk with schedule := session.schedule.start pass }.follow number progress).1
        ({ session.desk with schedule := session.schedule.start pass }.follow number progress).2
  | resumed {number : Nat} {reply : Reply} {before progress : Progress (List Diagnostic)}
      (happens : tick.event = .replied (.pass number) reply)
      (waits : session.checks.find? number = some before)
      (reaches : (before.resume tick.now reply session.store).1 = progress) :
      Move session tick (session.desk.follow number progress).1
        (session.desk.follow number progress).2
  | stopped {request : Nat} (happens : tick.event = .asked request .shutDown) :
      Move session tick []
        { session.desk with schedule := session.schedule.shutDown, checks := .empty }
  | idle (ignored : session.Ignores tick.event) : Move session tick [] session.desk

/-- Some effects publish nothing and some session has the same desk. -/
def Idle (session : Session) (outcome : List Effect × Session) : Prop :=
  lists outcome.1 = [] ∧ outcome.2.desk = session.desk

theorem followRequest_idle (session : Session) (number : Nat)
    (made : Progress Answer × Store × List Notice) :
    session.Idle (session.followRequest number made) := by
  rcases made with ⟨progress, store, notices⟩
  cases progress <;> simp [Idle, followRequest, desk, lists]

theorem answerAbout_idle (session : Session) (now : Moment) (number : Nat) (uri : String)
    (otherwise : Answer) (activity : Text → Activity Answer) :
    session.Idle (session.answerAbout now number uri otherwise activity) := by
  unfold answerAbout
  split
  · exact followRequest_idle session number _
  · exact ⟨rfl, rfl⟩

theorem gather_idle (session : Session) (number : Nat) (gathering : Gathering) :
    session.Idle (session.gather number gathering) := by
  refine ⟨?_, rfl⟩
  unfold gather
  split <;> rfl

theorem warmUp_idle (session : Session) (now : Moment) (number : Nat) (answer : Answer) :
    session.Idle (session.warmUp now number answer) := by
  unfold warmUp
  split
  · generalize beginAll now WarmUp.parts session.store = made
    rcases made with ⟨strands, store, notices⟩
    have gathered := gather_idle { session with store := store } number ⟨strands, answer⟩
    refine ⟨?_, gathered.2⟩
    simp only [lists_append, lists_reports, List.nil_append, gathered.1, List.append_nil]
    rw [lists, List.filterMap_flatMap]
    exact List.flatMap_eq_nil_iff.mpr fun _ _ => lists_sends _ _
  · exact ⟨rfl, rfl⟩

theorem fetched_idle (session : Session) (now : Moment) (number place : Nat) (reply : Reply)
    (gathering : Gathering) : session.Idle (session.fetched now number place reply gathering) := by
  unfold fetched
  split
  · exact ⟨rfl, rfl⟩
  · rename_i strand _
    dsimp only
    generalize strand.resume now reply session.store = made
    rcases made with ⟨progress, store, notices⟩
    have gathered := gather_idle { session with store := store } number
      { gathering with strands := gathering.strands.set place progress }
    refine ⟨?_, gathered.2⟩
    simp only [lists_append, lists_reports, lists_sends, List.nil_append, gathered.1]

/-- The editor's questions leave the desk alone. -/
theorem asked_idle (session : Session) (now : Moment) (tree : FileTree) (number : Nat)
    {question : Question} (goesOn : question ≠ .shutDown) :
    session.Idle (session.asked now tree number question) := by
  cases question with
  | complete uri position => exact answerAbout_idle session now number uri _ _
  | hover uri position => exact answerAbout_idle session now number uri _ _
  | define uri position =>
    simp only [asked]
    split
    · refine ⟨?_, rfl⟩
      simp only [lists_append, lists_reports, List.nil_append]
      rfl
    · exact ⟨rfl, rfl⟩
  | diagnose uri => exact answerAbout_idle session now number uri _ _
  | resolve item => exact followRequest_idle session number _
  | initialized => exact warmUp_idle session now number _
  | refresh =>
    exact warmUp_idle { session with store := session.store.invalidate } now number _
  | shutDown => exact absurd rfl goesOn

theorem open_of_admits {uri : String} (admitted : admits uri = true) (documents : Documents)
    (text : Text) :
    documents.open uri text = .ok (documents.insert (Percent.decodeString uri) text) := by
  have wellFormed := (Bool.and_eq_true_iff.mp admitted).2
  unfold Documents.open
  cases parts : Uri.ofText uri.toList with
  | ok parts => rfl
  | error cause => rw [parts] at wellFormed; cases wellFormed

theorem move_idle {session : Session} {tick : Tick} (ignored : session.Ignores tick.event)
    (idle : session.Idle (session.step tick.now tick.tree tick.event)) :
    Move session tick (session.published tick) (session.next tick).desk := by
  rcases idle with ⟨nothing, same⟩
  rw [published, next, nothing, same]
  exact .idle ignored

theorem move_opened (session : Session) (tick : Tick) {uri : String} {text : Text}
    (happens : tick.event = .opened uri text) :
    Move session tick (session.published tick) (session.next tick).desk := by
  cases admitted : admits uri with
  | true =>
    have isYaml := (Bool.and_eq_true_iff.mp admitted).1
    have step : session.step tick.now tick.tree tick.event = ({ session with
        documents := session.documents.insert (Percent.decodeString uri) text }.scheduled uri) := by
      rw [happens, step, opened, if_pos isYaml, open_of_admits admitted]
    rw [published, next, step]
    exact .opened happens admitted
  | false =>
    have ignored : session.Ignores tick.event := by
      rw [happens]
      exact admitted
    apply move_idle ignored
    rw [happens, step, opened]
    split
    · rename_i isYaml
      have malformed : (Uri.ofText uri.toList).isOk = false := by
        simpa [admits, isYaml] using admitted
      unfold Documents.open
      cases parts : Uri.ofText uri.toList with
      | ok parts => rw [parts] at malformed; cases malformed
      | error cause => exact ⟨rfl, rfl⟩
    · exact ⟨rfl, rfl⟩

theorem move_expired (session : Session) (tick : Tick) {number : Nat}
    (happens : tick.event = .expired number) :
    Move session tick (session.published tick) (session.next tick).desk := by
  cases waiting : session.schedule.find? number .waiting with
  | none =>
    have step : session.step tick.now tick.tree tick.event = ([], session) := by
      rw [happens]
      simp only [step, expired, Schedule.expire?, waiting, Option.map_none]
    apply move_idle (by rw [happens]; exact waiting)
    rw [step]
    exact ⟨rfl, rfl⟩
  | some pass =>
    cases present : session.text? pass.uri with
    | none =>
      have step : session.step tick.now tick.tree tick.event =
          { session with schedule := session.schedule.start pass }.passed number .gone := by
        rw [happens]
        simp only [step, expired, Schedule.expire?, waiting, Option.map_some]
        rw [show text? { session with schedule := session.schedule.start pass } pass.uri = none
          from present]
      have nothing : lists ({ session with
          schedule := session.schedule.start pass }.passed number .gone).1 = [] := by
        simp only [passed, lists_conclude]
        cases found : (session.schedule.start pass).find? number .running <;>
          simp [Schedule.published?, Schedule.complete, found, Schedule.verdict?]
      rw [published, next, step, nothing]
      exact .gone happens waiting present
    | some text =>
      generalize reaches : (session.check tick.tree pass.uri text).advance tick.now
        session.store = made
      rcases made with ⟨progress, store, notices⟩
      have step : session.step tick.now tick.tree tick.event =
          { session with schedule := session.schedule.start pass }.followCheck number
            (progress, store, notices) := by
        rw [happens]
        simp only [step, expired, Schedule.expire?, waiting, Option.map_some]
        rw [show text? { session with schedule := session.schedule.start pass } pass.uri =
          some text from present]
        exact congrArg
          (followCheck { session with schedule := session.schedule.start pass } number) reaches
      have follows := followCheck_eq_follow
        { session with schedule := session.schedule.start pass } number progress store notices
      rw [published, next, step, follows.1, follows.2]
      exact .begun happens waiting present (congrArg Prod.fst reaches)

theorem move_replied (session : Session) (tick : Tick) {job : Job} {reply : Reply}
    (happens : tick.event = .replied job reply) :
    Move session tick (session.published tick) (session.next tick).desk := by
  cases job with
  | pass number =>
    cases waits : session.checks.find? number with
    | none =>
      apply move_idle (by rw [happens]; exact waits)
      rw [happens]
      simp only [step, replied, waits]
      exact ⟨rfl, rfl⟩
    | some before =>
      generalize reaches : before.resume tick.now reply session.store = made
      rcases made with ⟨progress, store, notices⟩
      have step : session.step tick.now tick.tree tick.event =
          session.followCheck number (progress, store, notices) := by
        rw [happens]
        simp only [step, replied, waits, reaches]
      have follows := followCheck_eq_follow session number progress store notices
      rw [published, next, step, follows.1, follows.2]
      exact .resumed happens waits (congrArg Prod.fst reaches)
  | request number =>
    apply move_idle (by rw [happens]; trivial)
    rw [happens]
    simp only [step, replied]
    split
    · exact followRequest_idle session number _
    · exact ⟨rfl, rfl⟩
  | warmUp number place =>
    apply move_idle (by rw [happens]; trivial)
    rw [happens]
    simp only [step, replied]
    split
    · exact fetched_idle session tick.now number place reply _
    · exact ⟨rfl, rfl⟩

/-- Every tick is one of the moves. -/
theorem move_next (session : Session) (tick : Tick) :
    Move session tick (session.published tick) (session.next tick).desk := by
  cases happens : tick.event with
  | opened uri text => exact move_opened session tick happens
  | changed uri changes =>
    cases present : session.text? uri with
    | none =>
      apply move_idle (by rw [happens]; exact present)
      rw [happens]
      simp only [step, changed, present]
      exact ⟨rfl, rfl⟩
    | some text =>
      have step : session.step tick.now tick.tree tick.event = ({ session with
          documents := session.documents.change uri changes }.scheduled uri) := by
        rw [happens]
        simp only [step, changed, present]
      rw [published, next, step]
      exact .changed happens (by rw [present]; rfl)
  | closed uri =>
    cases isYaml : Uri.isYaml uri with
    | true =>
      have step : session.step tick.now tick.tree tick.event = (push uri [], { session with
          documents := session.documents.close uri
          schedule := session.schedule.cancel uri }) := by
        rw [happens, step, closed, if_pos isYaml]
      rw [published, next, step]
      exact .closed happens isYaml
    | false =>
      apply move_idle (by rw [happens]; exact isYaml)
      rw [happens]
      simp only [step, closed, isYaml]
      exact ⟨rfl, rfl⟩
  | asked number question =>
    by_cases ends : question = .shutDown
    · subst ends
      have step : session.step tick.now tick.tree tick.event =
          ([.answer number (.ok .nothing)], session.shutDown) := by
        rw [happens]
        rfl
      rw [published, next, step]
      exact .stopped happens
    · refine move_idle ?_ ?_
      · rw [happens]
        cases question <;> trivial
      · rw [happens]
        exact asked_idle session tick.now tick.tree number ends
  | expired number => exact move_expired session tick happens
  | replied job reply => exact move_replied session tick happens
  | gathered number =>
    apply move_idle (by rw [happens]; trivial)
    rw [happens]
    simp only [step, gathered]
    split <;> exact ⟨rfl, rfl⟩

end Session

end HomeConfig
