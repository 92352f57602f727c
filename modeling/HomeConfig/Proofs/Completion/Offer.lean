import HomeConfig.Completion.Offer
import HomeConfig.Proofs.Live.Given

/-!
# Offers and their answers

What is offered at a cursor is decided by its context, and the items of an offer are made of one
list at most.  So the completions are told by the context and by the answers to the question for
that list (`given_complete`): every item is a fixed one, or the item of an entry of the list.
-/

namespace HomeConfig

/-- The entries of a list in the answers, none if the list cannot be had. -/
def Answers.entries (answers : Answers) (registry : Registry) : List registry.Item :=
  match answers.list registry with
  | .ok listed => listed.value
  | .error _ => []

theorem Answers.entries_of_list {answers : Answers} {registry : Registry}
    {items : List registry.Item}
    (listed : (answers.list registry).map Cache.Entry.value = .ok items) :
    answers.entries registry = items := by
  unfold entries
  cases answer : answers.list registry with
  | ok found =>
    rw [answer] at listed
    exact Except.ok.inj listed
  | error cause =>
    rw [answer] at listed
    cases listed

/-- A list that has an entry can be had. -/
theorem Answers.list_of_mem {answers : Answers} {registry : Registry} {entry : registry.Item}
    (member : entry ∈ answers.entries registry) :
    (answers.list registry).map Cache.Entry.value = .ok (answers.entries registry) := by
  unfold entries at *
  cases answer : answers.list registry with
  | ok listed => rfl
  | error cause =>
    rw [answer] at member
    cases member

namespace Candidate

variable {needle : Text} {range : Range} {item : Item}

/-- The item of an entity is known by the identifier of the entity. -/
theorem entity_eq_some {state : Entity} (offered : entity needle range state = some item) :
    item.label = state.id ∧ item.edit = some ⟨range, state.id⟩ ∧
      item.data = some (Subject.entity state.id).data := by
  unfold entity at offered
  split at offered
  · cases offered
    exact ⟨rfl, rfl, rfl⟩
  · cases offered

/-- The item of a service is known by the full name of the service. -/
theorem service_eq_some {listed : Service} (offered : service needle range listed = some item) :
    item.label = listed.fullName ∧ item.edit = some ⟨range, listed.fullName⟩ ∧
      item.data = some (Subject.service listed.fullName).data := by
  unfold service at offered
  split at offered
  · cases offered
    exact ⟨rfl, rfl, rfl⟩
  · cases offered

end Candidate

namespace Offer

/-- The items of an offer with given answers, none if its list cannot be had. -/
def given (answers : Answers) (offer : Offer) : List Item :=
  match offer.items.run.given answers with
  | .ok items => items
  | .error _ => []

theorem given_complete (answers : Answers) (text : Text) (cursor : Position) :
    (complete text cursor).given answers =
      (ofContext (Context.ofCursor text cursor.line cursor.character) cursor).given answers := by
  unfold complete given
  rw [Activity.given_bind]
  cases (ofContext (Context.ofCursor text cursor.line cursor.character) cursor).items.run.given
    answers <;> rfl

@[simp] theorem given_entries (answers : Answers) (registry : Registry)
    (item : registry.Item → Option Item) :
    (entries registry item).given answers = (answers.entries registry).filterMap item := by
  unfold given entries items Answers.entries
  cases registry with
  | states | services | areas | devices =>
    simp only [Inquiry.given_bind, Inquiry.given_list]
    cases answers.list _ <;> rfl
  | floors | labels =>
    simp only [Inquiry.given_bind, Inquiry.listOrEmpty, ExceptT.run_mk, Activity.given]
    cases answers.list _ <;> rfl

theorem mem_given_entries {answers : Answers} {registry : Registry}
    {candidate : registry.Item → Option Item} {item : Item} :
    item ∈ (entries registry candidate).given answers ↔
      ∃ entry ∈ answers.entries registry, candidate entry = some item := by
  rw [given_entries]
  exact List.mem_filterMap

theorem given_template (answers : Answers) (line : Text) (cursor : Position) :
    (template line cursor).given answers =
      match Typed.argument? line, answers.states with
      | none, _ => functions
      | some _, .error _ => []
      | some typed, .ok states =>
        states.filterMap (Candidate.argument typed (Typed.range cursor typed.name)) ++
          functions := by
  unfold template
  cases Typed.argument? line with
  | none => rfl
  | some typed =>
    unfold given Offer.items Answers.states
    simp only [Inquiry.given_bind, Inquiry.given_list]
    cases answers.list .states <;> rfl

end Offer

end HomeConfig
