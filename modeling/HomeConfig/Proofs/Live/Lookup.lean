import HomeConfig.Proofs.Live.Index

/-!
# Looking states up

The states can be asked for as a list, as a table, or for one identifier, and the checks of a
document look them up too.  All of these share one index of the states.

Here such questions overlap in any way, while fetches end well or fail and everything is dropped at
any moment.  Each of them is answered as if nothing were shared (`Lookup.alone`): a table is built
from the very list that a question for the list, asked in the same place, is answered with, and of
several states with one identifier the last one counts.
-/

namespace HomeConfig

/-- A question that states are looked up for. -/
inductive Lookup
  | states
  | table
  | entity (id : String)
  | findings (document : CheckedDocument)

namespace Lookup

inductive Answer
  | states (answer : Except Failure (List Entity))
  | table (answer : Except Failure EntityTable)
  | entity (answer : Except Failure (Option Entity))
  | findings (found : List Diagnostic)

/-- What is done for a question. -/
def activity (isConnected : Bool) : Lookup → Activity Answer
  | states => .states <$> Inquiry.states.run
  | table => .table <$> (EntityIndex.table <$> Inquiry.entityIndex).run
  | entity id => .entity <$> (Inquiry.entity id).run
  | findings document => .findings <$> validate isConnected document

/-- What is done for a question when nothing is shared.  Tables and single states come from the list
that the question for the list is answered with. -/
def alone (isConnected : Bool) : Lookup → Activity Answer
  | states => .states <$> Inquiry.states.run
  | table => (fun answer => .table (answer.map EntityTable.ofList)) <$> Inquiry.states.run
  | entity id => (fun answer => .entity
      (answer.map fun states => states.reverse.find? fun entity => entity.id = id)) <$>
        Inquiry.states.run
  | findings document => .findings <$> (validate isConnected document).unshared

theorem unshared_activity (isConnected : Bool) (lookup : Lookup) :
    (lookup.activity isConnected).unshared = lookup.alone isConnected := by
  cases lookup with
  | states =>
    refine congrArg (Activity.list _) (funext fun answer => ?_)
    cases answer <;> rfl
  | table =>
    refine congrArg (Activity.list _) (funext fun answer => ?_)
    cases answer <;> rfl
  | entity id =>
    refine congrArg (Activity.list _) (funext fun answer => ?_)
    cases answer with
    | ok states =>
      have found := EntityTable.find?_ofList states.value id
      exact congrArg (fun entity => Activity.finish (Answer.entity (.ok entity))) found
    | error cause => rfl
  | findings document => exact Activity.unshared_bind _ _

end Lookup

namespace Inquiry

variable {α : Type} {served : (registry : Registry) → Listing registry → Prop}

/-- The question for the index, and what follows it. -/
theorem run_entityIndex_bind (next : EntityIndex → Inquiry α) :
    (entityIndex >>= next).run = .list .states fun
      | .ok states => .index states fun index => (next index).run
      | .error cause => .finish (.error cause) := by
  refine congrArg (Activity.list _) (funext fun answer => ?_)
  cases answer <;> rfl

theorem indexes_entityIndex_bind {next : EntityIndex → Inquiry α}
    (goesOn : ∀ index, (next index).run.Indexes served)
    (sees : ∀ first second, first.table = second.table → next first = next second) :
    (entityIndex >>= next).run.Indexes served := by
  rw [run_entityIndex_bind]
  intro answer
  cases answer with
  | ok states =>
    refine ⟨Or.inr rfl, fun index => ⟨?_, fun same => ?_⟩⟩
    · exact (goesOn index).mono fun _ _ => Or.inl
    · exact congrArg ExceptT.run (sees index (.built states) same)
  | error cause => trivial

end Inquiry

namespace Check

variable {served : (registry : Registry) → Listing registry → Prop}

theorem indexes_run (document : CheckedDocument) (check : Check) :
    (check.run document).run.Indexes served := by
  cases check with
  | entities =>
    unfold run unknownEntities
    dsimp only
    split
    · trivial
    · refine Inquiry.indexes_entityIndex_bind (fun index => trivial) ?_
      intro first second same
      rw [same]
  | services =>
    unfold run unknownServices
    dsimp only
    split
    · trivial
    · intro answer
      cases answer <;> trivial
  | includes | templates | yaml => trivial

theorem indexes_runAll (document : CheckedDocument) (checks : List Check) :
    (runAll document checks).Indexes served := by
  induction checks with
  | nil => trivial
  | cons check rest inductionHypothesis =>
    have safely : (check.runSafely document).Indexes served := by
      refine (indexes_run document check).bind fun outcome => ?_
      cases outcome <;> trivial
    refine safely.bind fun found => ?_
    exact inductionHypothesis.bind fun others => trivial

end Check

namespace Lookup

theorem indexes_activity (isConnected : Bool) (lookup : Lookup) :
    (lookup.activity isConnected).Indexes fun _ _ => False := by
  cases lookup with
  | states =>
    intro answer
    cases answer <;> trivial
  | table =>
    intro answer
    cases answer with
    | ok states =>
      refine ⟨Or.inr rfl, fun index => ⟨trivial, fun same => ?_⟩⟩
      exact congrArg (fun table => Activity.finish (Answer.table (.ok table))) same
    | error cause => trivial
  | entity id =>
    refine Activity.Indexes.bind ?_ fun _ => trivial
    refine Inquiry.indexes_entityIndex_bind (fun index => trivial) fun first second same => ?_
    rw [same]
  | findings document => exact (Check.indexes_runAll document _).bind fun _ => trivial

/-- What can happen while states are looked up. -/
inductive Call (ι : Type)
  | asked (job : ι) (now : Moment) (lookup : Lookup)
  | replied (job : ι) (now : Moment) (reply : Reply)
  | dropped (job : ι)
  | invalidated

namespace Call

variable {ι : Type}

/-- A call as an event of the work, given what is done for a question. -/
def event (activity : Lookup → Activity Answer) : Call ι → Work.Event ι Answer
  | asked job now lookup => .begin job now (activity lookup)
  | replied job now reply => .replied job now reply
  | dropped job => .dropped job
  | invalidated => .invalidated

theorem unshared_event (isConnected : Bool) (call : Call ι) :
    (call.event (Lookup.activity isConnected)).unshared =
      call.event (Lookup.alone isConnected) := by
  cases call with
  | asked job now lookup => exact congrArg (Work.Event.begin job now) (lookup.unshared_activity _)
  | replied job now reply => rfl
  | dropped job => rfl
  | invalidated => rfl

theorem indexes_event (isConnected : Bool) (call : Call ι) :
    (call.event (Lookup.activity isConnected)).Indexes := by
  cases call with
  | asked job now lookup => exact lookup.indexes_activity isConnected
  | replied _ _ _ | dropped _ | invalidated => trivial

end Call

/-- However questions overlap, each one is answered, and sends its requests, as if it built what it
needs from the very list that it is served.  So the table has for each identifier the last state of
that list that has it, and a single state is missing exactly when no state of that list has its
identifier. -/
theorem lookups_answer_from_their_own_lists {ι : Type} [DecidableEq ι] (access : Option Access)
    (timeToLive : Moment) (calls : List (Call ι)) (call : Call ι) :
    let shared := (Work.new access timeToLive).after
      (calls.map (Call.event (activity access.isSome)))
    let apart := (Work.new access timeToLive).after (calls.map (Call.event (alone access.isSome)))
    (shared.step (call.event (activity access.isSome))).1 =
        (apart.step (call.event (alone access.isSome))).1 ∧
      shared.store.lists = apart.store.lists ∧
      ∀ (states : List Entity) (id : String),
        (EntityTable.ofList states).find? id =
            states.reverse.find? (fun entity => entity.id = id) ∧
          (states.reverse.find? (fun entity => entity.id = id) = none ↔
            ∀ entity ∈ states, entity.id ≠ id) := by
  intro shared apart
  have events : (calls.map (Call.event (activity access.isSome))).map Work.Event.unshared =
      calls.map (Call.event (alone access.isSome)) := by
    rw [List.map_map]
    exact List.map_congr_left fun call _ => call.unshared_event access.isSome
  have indexes : ∀ event ∈ calls.map (Call.event (activity access.isSome)), event.Indexes := by
    intro event member
    rcases List.mem_map.mp member with ⟨call, _, rfl⟩
    exact call.indexes_event access.isSome
  rcases Work.mirrors_after access timeToLive _ indexes with ⟨archive, mirrors⟩
  rw [events] at mirrors
  have same := (mirrors.step (call.indexes_event access.isSome)).1
  rw [call.unshared_event] at same
  refine ⟨same.symm, (congrArg Store.lists mirrors.store).symm, fun states id => ?_⟩
  have found := EntityTable.find?_ofList states id
  exact ⟨found, found ▸ EntityTable.find?_ofList_eq_none_iff states id⟩

end Lookup

end HomeConfig
