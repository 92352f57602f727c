import HomeConfig.Editor.Schedule

/-!
# Runs of a schedule

A run is a list of events that happen to a schedule one after the other.  Nothing is asked of the
order: a countdown may run out before or after any request, and a check may end at any time after
it began, or never.  What concerns a pass that has been taken away or has ended changes nothing, so
every order in which things can happen is among these lists.

`Change` says once what an event can do to a schedule.  What every run keeps is derived from it, and
`step` itself is not opened again.
-/

namespace HomeConfig

namespace Schedule

variable {δ : Type}

/-- The schedule after something has happened to it. -/
def next (state : Schedule) (event : Event δ) : Schedule :=
  (state.step event).2

/-- The schedule after some events, the first of them first. -/
def after (state : Schedule) (events : List (Event δ)) : Schedule :=
  events.foldl next state

@[simp] theorem after_nil (state : Schedule) : state.after ([] : List (Event δ)) = state :=
  rfl

@[simp] theorem after_cons (state : Schedule) (event : Event δ) (later : List (Event δ)) :
    state.after (event :: later) = (state.next event).after later :=
  rfl

@[simp] theorem after_append (state : Schedule) (before later : List (Event δ)) :
    state.after (before ++ later) = (state.after before).after later :=
  List.foldl_append

theorem after_concat (state : Schedule) (history : List (Event δ)) (event : Event δ) :
    state.after (history ++ [event]) = (state.after history).next event := by
  rw [after_append, after_cons, after_nil]

/-- The schedule without a pass that has ended.  Its document keeps its latest pass. -/
def ended (state : Schedule) (number : Nat) : Schedule :=
  { state with passes := without (some number) state.passes }

/-! ## What an event can do -/

/-- Everything that can happen to a schedule.  The last two are events that come too late: the pass
is not there any more, or it has not come as far. -/
inductive Change (state : Schedule) : Event δ → Schedule → Prop
  | requested (uri : String) : Change state (.schedule uri) (state.schedule uri)
  | forgotten (uri : String) : Change state (.cancel uri) (state.cancel uri)
  | started {number : Nat} {pass : Pass} (found : state.find? number .waiting = some pass) :
      Change state (.expire number) (state.start pass)
  | finished {number : Nat} {pass : Pass} (found : state.find? number .running = some pass)
      (outcome : CheckOutcome δ) : Change state (.complete number outcome) (state.ended number)
  | stopped : Change state .shutDown state.shutDown
  | expiredLate {number : Nat} (missing : state.find? number .waiting = none) :
      Change state (.expire number) state
  | completedLate {number : Nat} (missing : state.find? number .running = none)
      (outcome : CheckOutcome δ) : Change state (.complete number outcome) state

theorem change_next (state : Schedule) (event : Event δ) :
    Change state event (state.next event) := by
  cases event with
  | schedule uri => exact .requested uri
  | cancel uri => exact .forgotten uri
  | shutDown => exact .stopped
  | expire number =>
    cases found : state.find? number .waiting with
    | none =>
      have same : state.next (.expire number : Event δ) = state := by
        simp only [next, step, expire?, found, Option.map_none]
      rw [same]
      exact .expiredLate found
    | some pass =>
      have started : state.next (.expire number : Event δ) = state.start pass := by
        simp only [next, step, expire?, found, Option.map_some]
      rw [started]
      exact .started found
  | complete number outcome =>
    cases found : state.find? number .running with
    | none =>
      have same : state.next (.complete number outcome) = state := by
        simp only [next, step, complete, found]
      rw [same]
      exact .completedLate found outcome
    | some pass =>
      have finished : state.next (.complete number outcome) = state.ended number := by
        simp only [next, step, complete, found, ended]
      rw [finished]
      exact .finished found outcome

/-! ## Numbers and tables -/

/-- How many passes some events ask for. -/
def requests (events : List (Event δ)) : Nat :=
  events.countP fun
    | .schedule _ => true
    | _ => false

@[simp] theorem requests_append (before later : List (Event δ)) :
    requests (before ++ later) = requests before + requests later :=
  List.countP_append

@[simp] theorem schedule_issued (state : Schedule) (uri : String) :
    (state.schedule uri).issued = state.issued + 1 :=
  rfl

@[simp] theorem schedule_latest (state : Schedule) (uri : String) :
    (state.schedule uri).latest = state.latest.insert uri (state.issued + 1) :=
  rfl

@[simp] theorem cancel_issued (state : Schedule) (uri : String) :
    (state.cancel uri).issued = state.issued :=
  rfl

@[simp] theorem cancel_latest (state : Schedule) (uri : String) :
    (state.cancel uri).latest = state.latest.erase uri :=
  rfl

@[simp] theorem start_issued (state : Schedule) (pass : Pass) :
    (state.start pass).issued = state.issued :=
  rfl

@[simp] theorem start_latest (state : Schedule) (pass : Pass) :
    (state.start pass).latest = state.latest :=
  rfl

@[simp] theorem ended_issued (state : Schedule) (number : Nat) :
    (state.ended number).issued = state.issued :=
  rfl

@[simp] theorem ended_latest (state : Schedule) (number : Nat) :
    (state.ended number).latest = state.latest :=
  rfl

@[simp] theorem shutDown_issued (state : Schedule) : state.shutDown.issued = state.issued :=
  rfl

@[simp] theorem shutDown_latest (state : Schedule) : state.shutDown.latest = .empty :=
  rfl

/-- The count of passes goes up by one with each request and never goes back. -/
theorem Change.issued {state result : Schedule} {event : Event δ}
    (change : Change state event result) : result.issued = state.issued + requests [event] := by
  cases change <;> rfl

theorem issued_after (state : Schedule) (events : List (Event δ)) :
    (state.after events).issued = state.issued + requests events := by
  induction events generalizing state with
  | nil => rfl
  | cons event later inductionHypothesis =>
    have split : requests (event :: later) = requests [event] + requests later :=
      requests_append [event] later
    rw [after_cons, inductionHypothesis, (change_next state event).issued, split, Nat.add_assoc]

/-- The latest pass of a document changes only by a request for the document, by its being
forgotten, and at the end. -/
theorem Change.latest {state result : Schedule} {event : Event δ}
    (change : Change state event result) :
    result.latest = match event with
      | .schedule uri => state.latest.insert uri (state.issued + 1)
      | .cancel uri => state.latest.erase uri
      | .shutDown => .empty
      | _ => state.latest := by
  cases change <;> rfl

/-! ## What has begun in a run -/

/-- Something has begun in a run, and nothing that ends it has happened since. -/
def Since (begins : List (Event δ) → Event δ → Prop) (ends : Event δ → Prop)
    (history : List (Event δ)) : Prop :=
  ∃ earlier event later, history = earlier ++ event :: later ∧ begins earlier event ∧
    ∀ other ∈ later, ¬ ends other

theorem not_since_nil (begins : List (Event δ) → Event δ → Prop) (ends : Event δ → Prop) :
    ¬ Since begins ends [] := by
  rintro ⟨earlier, event, later, shape, _⟩
  simp at shape

/-- The last event begins it, or does not end what the ones before have begun. -/
theorem since_concat_iff (begins : List (Event δ) → Event δ → Prop) (ends : Event δ → Prop)
    (history : List (Event δ)) (event : Event δ) :
    Since begins ends (history ++ [event]) ↔
      begins history event ∨ (¬ ends event ∧ Since begins ends history) := by
  constructor
  · rintro ⟨earlier, first, later, shape, began, kept⟩
    rcases List.eq_nil_or_concat later with rfl | ⟨between, last, rfl⟩
    · have parts := List.append_inj' shape rfl
      rcases parts.1 with rfl
      rcases (List.cons.inj parts.2).1 with rfl
      exact Or.inl began
    · rw [List.concat_eq_append] at shape kept
      have parts : history = earlier ++ first :: between ∧ [event] = [last] :=
        List.append_inj' (by simpa using shape) rfl
      obtain rfl : event = last := by simpa using parts.2
      exact Or.inr ⟨kept event (by simp), earlier, first, between, parts.1, began,
        fun other member => kept other (by simp [member])⟩
  · rintro (began | ⟨kept, earlier, first, later, rfl, began, all⟩)
    · exact ⟨history, event, [], rfl, began, by simp⟩
    · refine ⟨earlier, first, later ++ [event], by simp, began, ?_⟩
      intro other member
      rcases List.mem_append.mp member with old | new
      · exact all other old
      · rwa [List.mem_singleton.mp new]

end Schedule

end HomeConfig
