import HomeConfig.Proofs.Live.Given

/-!
# Activities that read one thing first

The live state of an entity is read directly, before any list is asked for, and the reply may be
anything: an answer, a refusal, or nonsense.  Meanwhile other activities run on the store.

An activity of this kind needs one reply at most.  If the lists that it asks for are fresh when it
begins, and still fresh when the reply comes, it ends with the reply (`Activity.settles_of_offers`).
-/

namespace HomeConfig

variable {α β : Type} {asked : Registry → Prop} {answers : Answers}

/-- The same lists, with other answers to direct questions. -/
def Answers.withRead (answers : Answers) (read : Endpoint → Except Failure Json) : Answers :=
  { answers with read := read }

/-- An activity has ended with a result of some kind, or waits for one reply and ends so when the
reply comes, whatever it is, on a store with the same lists. -/
def Progress.Settles (answers : Answers) (asked : Registry → Prop) (holds : α → Prop) :
    Progress α → Prop
  | finished result => holds result
  | listing _ _ _ _ => False
  | reading access endpoint next =>
    ∀ (reply : Reply) (now : Moment) (archive : Archive) (store : Store), archive.Keeps store →
      store.Offers now answers asked → ∃ result later notices,
        (reading access endpoint next).resume now reply store =
          (.finished result, later, notices) ∧ holds result

namespace Activity

/-- An activity asks for some lists only, and reads one thing at most, before everything else. -/
inductive ReadsFirst (asked : Registry → Prop) : Activity α → Prop
  | nothing {activity : Activity α} (asks : activity.AsksOnly asked) : ReadsFirst asked activity
  | one (endpoint : Endpoint) {next : Except Failure Json → Activity α}
      (asks : ∀ answer, (next answer).AsksOnly asked) : ReadsFirst asked (read endpoint next)

theorem advance_withRead_of_offers {activity : Activity α} {archive : Archive} {store : Store}
    {now : Moment} (asks : activity.AsksOnly asked) (indexes : activity.Indexes fun _ _ => False)
    (keeps : archive.Keeps store) (offers : store.Offers now answers asked)
    (read : Endpoint → Except Failure Json) :
    ∃ later notices, activity.advance now store =
      (.finished (activity.given (answers.withRead read)), later, notices) := by
  have same : store.Offers now (answers.withRead read) asked := offers
  exact advance_of_offers asks (indexes.mono fun _ _ => False.elim) keeps same

/-- What an activity comes to with any answer to its direct question, it comes to in a run. -/
theorem settles_of_offers {activity : Activity α} {archive : Archive} {store : Store} {now : Moment}
    (reads : activity.ReadsFirst asked) (indexes : activity.Indexes fun _ _ => False)
    (keeps : archive.Keeps store) (offers : store.Offers now answers asked) {holds : α → Prop}
    (always : ∀ read, holds (activity.given (answers.withRead read))) :
    (activity.advance now store).1.Settles answers asked holds := by
  cases reads with
  | nothing asks =>
    rcases advance_withRead_of_offers asks indexes keeps offers answers.read with
      ⟨later, notices, ended⟩
    rw [ended]
    exact always answers.read
  | @one endpoint next asks =>
    rw [advance]
    cases store.access with
    | some access =>
      intro reply moment archive store keeps offers
      let answer := Reply.content (access.url endpoint) reply
      rcases advance_withRead_of_offers (asks answer) (indexes answer) keeps offers
        (fun _ => answer) with ⟨later, notices, ended⟩
      exact ⟨_, later, notices, ended, always fun _ => answer⟩
    | none =>
      let answer := disconnectedAnswer endpoint
      rcases advance_withRead_of_offers (asks answer) (indexes answer) keeps offers
        disconnectedAnswer with ⟨later, notices, ended⟩
      change ((next answer).advance now store).1.Settles answers asked holds
      rw [ended]
      exact always disconnectedAnswer

end Activity

end HomeConfig
