import HomeConfig.Proofs.Schedule.Publication

/-!
# The life of a pass

A pass waits from the request that brings it until its countdown runs out, unless something takes it
away before.  From then on it runs until its check ends or everything ends.  `Waits` and `Runs` say so
of what has happened and what was done in a run.  They know nothing of passes and tables, and still
they tell which passes a schedule has at any time.

The schedule learns of a countdown that runs out by a number only, and at any time: it may be that of
a pass that another one has replaced.  That is no harm, since a number is never given twice, and a
pass that has been taken away while it waited is never waiting again (`Spent`).
-/

namespace HomeConfig

namespace Schedule

variable {δ : Type} {state : Schedule}

/-! ## Waiting and running -/

/-- An event ends the waiting of a pass: its countdown runs out, or it is taken away. -/
def Event.EndsWait (uri : String) (number : Nat) (event : Event δ) : Prop :=
  event = .expire number ∨ event.overrules uri = true

/-- An event ends the check of a pass. -/
def Event.EndsCheck (number : Nat) (event : Event δ) : Prop :=
  event = .shutDown ∨ ∃ outcome, event = .complete number outcome

/-- The pass with a number was brought by a request for a document and has been waiting since. -/
def Waits (uri : String) (number : Nat) : List (Event δ) → Prop :=
  Since (fun earlier event => event = .schedule uri ∧ number = requests earlier + 1)
    (Event.EndsWait uri number)

/-- After a run, an event makes the check of a pass begin. -/
def BeginsCheck (uri : String) (number : Nat) (history : List (Event δ)) (event : Event δ) : Prop :=
  .check number uri ∈ ((empty.after history).step event).1

/-- The check of a pass has begun at some time in a run. -/
def Begun (uri : String) (number : Nat) : List (Event δ) → Prop :=
  Since (BeginsCheck uri number) fun _ => False

/-- The check of a pass has begun in a run and not ended since. -/
def Runs (uri : String) (number : Nat) : List (Event δ) → Prop :=
  Since (BeginsCheck uri number) (Event.EndsCheck number)

@[simp] theorem Event.endsCheck_complete_iff (number other : Nat) (outcome : CheckOutcome δ) :
    (Event.complete other outcome).EndsCheck number ↔ other = number := by
  simp [EndsCheck]

@[simp] theorem Event.not_endsCheck_expire (number other : Nat) :
    ¬ (Event.expire other : Event δ).EndsCheck number := by
  simp [EndsCheck]

/-! ## What an event does to a pass -/

/-- What is not found is not there. -/
theorem Sound.number_ne_of_missing (sound : state.Sound) {number : Nat} {phase : Pass.Phase}
    (missing : state.find? number phase = none) {pass : Pass} (member : pass ∈ state.passes)
    (same : pass.phase = phase) : pass.number ≠ number := by
  rintro rfl
  subst same
  exact absurd (missing.symm.trans (sound.find?_of_mem member)) (by simp)

/-- A check begins when the countdown of a waiting pass runs out, and at no other time. -/
theorem Sound.check_mem_step_iff (sound : state.Sound) (event : Event δ) (uri : String)
    (number : Nat) : .check number uri ∈ (state.step event).1 ↔
      event = .expire number ∧ ⟨number, uri, .waiting⟩ ∈ state.passes := by
  cases event with
  | expire other =>
    cases found : state.find? other .waiting with
    | none =>
      simp only [step, expire?, found, Option.map_none, List.not_mem_nil, false_iff, not_and]
      rintro ⟨⟩ member
      exact sound.number_ne_of_missing found member rfl rfl
    | some pass =>
      rcases find?_eq_some found with ⟨member, rfl, waiting⟩
      simp only [step, expire?, found, Option.map_some, List.mem_singleton, Effect.check.injEq,
        Event.expire.injEq]
      constructor
      · rintro ⟨rfl, rfl⟩
        refine ⟨rfl, ?_⟩
        rwa [← waiting]
      · rintro ⟨same, there⟩
        rw [sound.eq_of_number_eq member there same]
        exact ⟨rfl, rfl⟩
  | _ => simp [step]

/-- The waiting passes after an event are those that it leaves waiting, and the one it brings. -/
theorem Sound.waiting_mem_change (sound : state.Sound) {event : Event δ} {result : Schedule}
    (change : Change state event result) (uri : String) (number : Nat) :
    ⟨number, uri, .waiting⟩ ∈ result.passes ↔
      (event = .schedule uri ∧ number = state.issued + 1) ∨
        (¬ event.EndsWait uri number ∧ ⟨number, uri, .waiting⟩ ∈ state.passes) := by
  cases change with
  | requested other =>
    rw [sound.mem_schedule]
    simp only [Event.EndsWait, Event.overrules, beq_iff_eq, Event.schedule.injEq, Pass.mk.injEq]
    grind
  | forgotten other =>
    rw [sound.mem_cancel]
    simp only [Event.EndsWait, Event.overrules, beq_iff_eq]
    grind
  | @started expired pass found =>
    rcases find?_eq_some found with ⟨member, rfl, _⟩
    rw [sound.mem_start member]
    simp only [Event.EndsWait, Event.overrules]
    grind
  | @finished ended pass found outcome =>
    rcases find?_eq_some found with ⟨member, rfl, running⟩
    have apart : ⟨number, uri, .waiting⟩ ∈ state.passes → number ≠ pass.number := by
      rintro there rfl
      rw [← sound.eq_of_number_eq there member rfl] at running
      cases running
    rw [Sound.mem_ended]
    simp only [Event.EndsWait, Event.overrules]
    grind
  | stopped => simp [shutDown, Event.EndsWait, Event.overrules]
  | @expiredLate expired missing =>
    have apart : ⟨number, uri, .waiting⟩ ∈ state.passes → number ≠ expired :=
      fun there => sound.number_ne_of_missing missing there rfl
    simp only [Event.EndsWait, Event.overrules]
    grind
  | completedLate _ _ => simp [Event.EndsWait, Event.overrules]

/-- The running passes after an event are those whose check it does not end, and the one whose check
it begins. -/
theorem Sound.running_mem_change (sound : state.Sound) {event : Event δ} {result : Schedule}
    (change : Change state event result) (uri : String) (number : Nat) :
    ⟨number, uri, .running⟩ ∈ result.passes ↔
      .check number uri ∈ (state.step event).1 ∨
        (¬ event.EndsCheck number ∧ ⟨number, uri, .running⟩ ∈ state.passes) := by
  rw [sound.check_mem_step_iff]
  cases change with
  | requested other =>
    rw [sound.mem_schedule]
    simp [Event.EndsCheck]
  | forgotten other =>
    rw [sound.mem_cancel]
    simp [Event.EndsCheck]
  | @started expired pass found =>
    rcases find?_eq_some found with ⟨member, rfl, waiting⟩
    have own (phase : Pass.Phase) (there : ⟨pass.number, uri, phase⟩ ∈ state.passes) :
        ⟨pass.number, uri, phase⟩ = pass := sound.eq_of_number_eq there member rfl
    rw [sound.mem_start member]
    simp only [Event.not_endsCheck_expire, Event.expire.injEq, not_false_eq_true, true_and]
    constructor
    · rintro (⟨there, _⟩ | same)
      · exact Or.inr there
      · left
        cases pass
        cases same
        cases waiting
        exact ⟨rfl, member⟩
    · rintro (⟨rfl, there⟩ | there)
      · right
        rw [← own _ there]
      · refine Or.inl ⟨there, ?_⟩
        rintro rfl
        rw [← own _ there] at waiting
        cases waiting
  | @finished ended pass found outcome =>
    rcases find?_eq_some found with ⟨member, rfl, _⟩
    rw [Sound.mem_ended]
    simp only [Event.endsCheck_complete_iff, reduceCtorEq, false_and, false_or]
    grind
  | stopped => simp [shutDown, Event.EndsCheck]
  | @expiredLate expired missing =>
    have apart : ⟨number, uri, .waiting⟩ ∈ state.passes → number ≠ expired :=
      fun there => sound.number_ne_of_missing missing there rfl
    simp only [Event.not_endsCheck_expire, Event.expire.injEq]
    grind
  | @completedLate ended missing outcome =>
    have apart : ⟨number, uri, .running⟩ ∈ state.passes → number ≠ ended :=
      fun there => sound.number_ne_of_missing missing there rfl
    simp only [Event.endsCheck_complete_iff, reduceCtorEq, false_and, false_or]
    grind

/-! ## Passes and runs -/

/-- The waiting passes of a schedule are those that wait in the run. -/
theorem waiting_after_iff (history : List (Event δ)) (uri : String) (number : Nat) :
    ⟨number, uri, .waiting⟩ ∈ (empty.after history).passes ↔ Waits uri number history := by
  induction history using List.reverseRecOn with
  | nil => exact iff_of_false List.not_mem_nil (not_since_nil _ _)
  | append_singleton history event inductionHypothesis =>
    rw [Waits, since_concat_iff, ← Waits, ← inductionHypothesis, after_concat,
      (sound_after history).waiting_mem_change (change_next _ event), issued_after_empty]

/-- The running passes of a schedule are those whose check runs. -/
theorem running_after_iff (history : List (Event δ)) (uri : String) (number : Nat) :
    ⟨number, uri, .running⟩ ∈ (empty.after history).passes ↔ Runs uri number history := by
  induction history using List.reverseRecOn with
  | nil => exact iff_of_false List.not_mem_nil (not_since_nil _ _)
  | append_singleton history event inductionHypothesis =>
    rw [Runs, since_concat_iff, ← Runs, ← inductionHypothesis, after_concat,
      (sound_after history).running_mem_change (change_next _ event), BeginsCheck]

/-! ## Passes that never wait again -/

/-- There has been a pass with a number, and it does not wait. -/
def Spent (number : Nat) (state : Schedule) : Prop :=
  number ≤ state.issued ∧ ∀ uri, ⟨number, uri, .waiting⟩ ∉ state.passes

namespace Spent

variable {number : Nat}

/-- No event makes a pass wait again. -/
theorem change (spent : Spent number state) (sound : state.Sound) {event : Event δ}
    {result : Schedule} (change : Change state event result) : Spent number result := by
  constructor
  · rw [change.issued]
    exact Nat.le_add_right_of_le spent.1
  · intro uri member
    rcases (sound.waiting_mem_change change uri number).mp member with ⟨_, fresh⟩ | ⟨_, old⟩
    · exact absurd spent.1 (by omega)
    · exact spent.2 uri old

theorem after (spent : Spent number state) (sound : state.Sound) (events : List (Event δ)) :
    Spent number (state.after events) := by
  induction events generalizing state with
  | nil => exact spent
  | cons event later inductionHypothesis =>
    have change := change_next state event
    exact inductionHypothesis (spent.change sound change) (sound.change change)

/-- Its check does not begin any more. -/
theorem begun_append_iff {before : List (Event δ)} (spent : Spent number (empty.after before))
    (uri : String) (later : List (Event δ)) :
    Begun uri number (before ++ later) ↔ Begun uri number before := by
  induction later using List.reverseRecOn with
  | nil => rw [List.append_nil]
  | append_singleton later event inductionHypothesis =>
    have sound := sound_after (before ++ later)
    have still : Spent number (empty.after (before ++ later)) := by
      rw [after_append]
      exact spent.after (sound_after before) later
    have silent : ¬ BeginsCheck uri number (before ++ later) event := fun begins =>
      still.2 uri ((sound.check_mem_step_iff event uri number).mp begins).2
    rw [← inductionHypothesis, ← List.append_assoc, Begun, since_concat_iff, or_iff_right silent,
      and_iff_right not_false]

/-- A pass is not waiting any more after an event that ends its waiting. -/
theorem of_endsWait (sound : state.Sound) {event : Event δ} {result : Schedule}
    (change : Change state event result) {pass : Pass} (member : pass ∈ state.passes)
    (ends : event.EndsWait pass.uri pass.number) : Spent pass.number result := by
  constructor
  · rw [change.issued]
    exact Nat.le_add_right_of_le (sound.number_le pass member)
  · intro uri there
    rcases (sound.waiting_mem_change change uri pass.number).mp there with ⟨_, fresh⟩ | ⟨kept, old⟩
    · exact absurd (sound.number_le pass member) (by omega)
    · have same := sound.eq_of_number_eq old member rfl
      rw [← same] at ends
      exact kept ends

end Spent

/-- A pass whose check has begun is not waiting. -/
theorem Begun.spent {uri : String} {number : Nat} {history : List (Event δ)}
    (begun : Begun uri number history) : Spent number (empty.after history) := by
  induction history using List.reverseRecOn with
  | nil => exact absurd begun (not_since_nil _ _)
  | append_singleton history event inductionHypothesis =>
    have sound := sound_after history
    have change := change_next (empty.after history) event
    rw [after_concat]
    rcases (since_concat_iff _ _ history event).mp begun with begins | ⟨_, before⟩
    · rcases (sound.check_mem_step_iff event uri number).mp begins with ⟨rfl, member⟩
      exact Spent.of_endsWait sound change member (Or.inl rfl)
    · exact (inductionHypothesis before).change sound change

end Schedule

end HomeConfig
