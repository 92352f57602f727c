import HomeConfig.Live.Query
import HomeConfig.Proofs.Live.Index

/-!
# Activities and their answers

What an activity comes to depends on the store only through the answers that it gets.  For answers
that are given beforehand, the result can be read off the activity, without a store and without
waiting (`Activity.given`).

If every list that an activity asks for is in the store, fresh, the activity ends at once, and with
the result that belongs to those lists (`Activity.advance_of_offers`).
-/

namespace HomeConfig

/-- What questions are answered. -/
structure Answers where
  list (registry : Registry) : Except Failure (Listing registry)
  read (endpoint : Endpoint) : Except Failure Json

namespace Answers

/-- The states in the answers. -/
def states (answers : Answers) : Except Failure (List Entity) :=
  (answers.list .states).map Cache.Entry.value

/-- The services in the answers. -/
def services (answers : Answers) : Except Failure (List Service) :=
  (answers.list .services).map Cache.Entry.value

end Answers

namespace Activity

variable {α β : Type}

/-- The result of an activity with given answers. -/
def given (answers : Answers) : Activity α → α
  | finish result => result
  | note _ rest => rest.given answers
  | list registry next => (next (answers.list registry)).given answers
  | index states next => (next (.built states)).given answers
  | read endpoint next => (next (answers.read endpoint)).given answers

theorem given_bind (answers : Answers) (activity : Activity α) (next : α → Activity β) :
    (activity >>= next).given answers = (next (activity.given answers)).given answers := by
  induction activity with
  | finish result => rfl
  | note notice rest inductionHypothesis => exact inductionHypothesis
  | list registry after inductionHypothesis => exact inductionHypothesis _
  | index states after inductionHypothesis => exact inductionHypothesis _
  | read endpoint after inductionHypothesis => exact inductionHypothesis _

/-- An activity asks for some lists only, and reads nothing else. -/
def AsksOnly (asked : Registry → Prop) : Activity α → Prop
  | finish _ => True
  | note _ rest => rest.AsksOnly asked
  | list registry next => asked registry ∧ ∀ answer, (next answer).AsksOnly asked
  | index _ next => ∀ index, (next index).AsksOnly asked
  | read _ _ => False

theorem AsksOnly.mono {asked more : Registry → Prop} {activity : Activity α}
    (asks : activity.AsksOnly asked) (grows : ∀ registry, asked registry → more registry) :
    activity.AsksOnly more := by
  induction activity with
  | finish result => trivial
  | note notice rest inductionHypothesis => exact inductionHypothesis asks
  | list registry next inductionHypothesis =>
    exact ⟨grows registry asks.1, fun answer => inductionHypothesis answer (asks.2 answer)⟩
  | index states next inductionHypothesis =>
    exact fun index => inductionHypothesis index (asks index)
  | read endpoint next inductionHypothesis => exact asks.elim

theorem AsksOnly.bind {asked : Registry → Prop} {activity : Activity α}
    {next : α → Activity β} (asks : activity.AsksOnly asked)
    (goesOn : ∀ result, (next result).AsksOnly asked) : (activity >>= next).AsksOnly asked := by
  induction activity with
  | finish result => exact goesOn result
  | note notice rest inductionHypothesis => exact inductionHypothesis asks
  | list registry after inductionHypothesis =>
    exact ⟨asks.1, fun answer => inductionHypothesis answer (asks.2 answer)⟩
  | index states after inductionHypothesis =>
    exact fun index => inductionHypothesis index (asks index)
  | read endpoint after inductionHypothesis => exact asks.elim

end Activity

namespace Inquiry

variable {α β : Type}

theorem given_bind (answers : Answers) (inquiry : Inquiry α) (next : α → Inquiry β) :
    (inquiry >>= next).run.given answers =
      (inquiry.run.given answers >>= fun result => (next result).run.given answers) := by
  rw [ExceptT.run_bind, Activity.given_bind]
  cases inquiry.run.given answers <;> rfl

theorem given_listing (answers : Answers) (registry : Registry) :
    (listing registry).run.given answers = answers.list registry :=
  rfl

theorem given_list (answers : Answers) (registry : Registry) :
    (list registry).run.given answers = (answers.list registry).map Cache.Entry.value := by
  rw [list, given_bind, given_listing]
  cases answers.list registry <;> rfl

theorem given_services (answers : Answers) :
    services.run.given answers = answers.services :=
  given_list answers .services

theorem given_entityIndex (answers : Answers) :
    entityIndex.run.given answers = (answers.list .states).map EntityIndex.built := by
  rw [entityIndex, given_bind, given_listing]
  cases answers.list .states <;> rfl

end Inquiry

/-- A store has fresh lists, and these are the given answers. -/
def Store.Offers (store : Store) (now : Moment) (answers : Answers) (asked : Registry → Prop) :
    Prop :=
  ∀ registry, asked registry → ∃ entry,
    store.lists.fresh? now registry = some entry ∧ answers.list registry = .ok entry

/-- What a store answers with its fresh lists, while nothing else can be had. -/
def Store.answers (store : Store) (now : Moment) : Answers where
  list registry :=
    match store.lists.fresh? now registry with
    | some entry => .ok entry
    | none => .error .notACollection
  read endpoint := disconnectedAnswer endpoint

theorem Store.offers_answers {store : Store} {now : Moment} {asked : Registry → Prop}
    (fresh : ∀ registry, asked registry → (store.lists.fresh? now registry).isSome = true) :
    store.Offers now (store.answers now) asked := by
  intro registry asks
  rcases Option.isSome_iff_exists.mp (fresh registry asks) with ⟨entry, found⟩
  exact ⟨entry, found, by simp only [answers, found]⟩

namespace Activity

variable {α : Type} {asked : Registry → Prop} {answers : Answers} {now : Moment}

theorem advance_unshared_of_offers {activity : Activity α} {store : Store}
    (asks : activity.AsksOnly asked) (offers : store.Offers now answers asked) :
    ∃ later notices, activity.unshared.advance now store =
      (.finished (activity.given answers), later, notices) := by
  induction activity with
  | finish result => exact ⟨store, [], rfl⟩
  | note notice rest inductionHypothesis =>
    rcases inductionHypothesis asks with ⟨later, notices, ended⟩
    exact ⟨later, notice :: notices, by simp only [unshared, advance, ended, given]⟩
  | list registry next inductionHypothesis =>
    rcases offers registry asks.1 with ⟨entry, fresh, answered⟩
    rcases inductionHypothesis (.ok entry) (asks.2 _) with ⟨later, notices, ended⟩
    exact ⟨later, notices, by simp only [unshared, advance, fresh, ended, given, answered]⟩
  | index states next inductionHypothesis => exact inductionHypothesis _ (asks _)
  | read endpoint next inductionHypothesis => exact asks.elim

/-- An activity ends at once if the store has everything that it asks for. -/
theorem advance_of_offers {activity : Activity α} {archive : Archive} {store : Store}
    (asks : activity.AsksOnly asked) (indexes : activity.Indexes archive.Holds)
    (keeps : archive.Keeps store) (offers : store.Offers now answers asked) :
    ∃ later notices, activity.advance now store =
      (.finished (activity.given answers), later, notices) := by
  -- Neither the given answers nor the fresh lists depend on what is shared.
  have alone : ∃ later notices, activity.unshared.advance now store.unshared =
      (.finished (activity.given answers), later, notices) :=
    advance_unshared_of_offers asks offers
  rcases alone with ⟨_, _, ended⟩
  have same := (activity.advance_unshared now indexes keeps).same
  rw [ended] at same
  cases made : activity.advance now store with
  | mk progress rest =>
    rw [made] at same
    have result : progress.unshared = .finished (activity.given answers) :=
      (congrArg Prod.fst same).symm
    cases progress with
    | finished found =>
      cases result
      exact ⟨rest.1, rest.2, rfl⟩
    | listing access registry previous next => cases result
    | reading access endpoint next => cases result

end Activity

end HomeConfig
