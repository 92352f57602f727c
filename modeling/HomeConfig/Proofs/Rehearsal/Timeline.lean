import HomeConfig.Proofs.Rehearsal.Agenda
import HomeConfig.Rehearsal.Timeline
import Mathlib.Algebra.Order.Monoid.Defs

/-!
# What is still to come

What is due, what has been entered and what has only been begun differ in where they are kept, not in
when they will happen.  `coming` lists them all, each with its time.  Seen in this way nothing happens
to a timeline but that events come in, that they come out at their times, and that void ones are left
out; and the present moment never passes one that is still to come (`next?_eq_some`).
-/

namespace HomeConfig

namespace Timeline

open scoped List

variable {τ ε : Type}

/-- The ends of times that are waited for, among what is to come. -/
def ends (coming : List (τ × Option ε)) : List (τ × Option ε) :=
  coming.filter fun event => event.2.isNone

theorem ends_cons_none (time : τ) (coming : List (τ × Option ε)) :
    ends ((time, none) :: coming) = (time, none) :: ends coming :=
  rfl

variable [AddCommMonoid τ] [LinearOrder τ]

/-- When something will happen that takes a while from now on. -/
def arrival (now delay : τ) : τ :=
  if 0 < delay then now + delay else now

/-- All that is to come, with the times. -/
def coming (timeline : Timeline τ ε) : List (τ × Option ε) :=
  timeline.due.map (fun event => (timeline.now, event)) ++ timeline.agenda.contents ++
    timeline.begun.map fun (delay, event) => (arrival timeline.now delay, some event)

/-! ## Coming in -/

theorem coming_begin (timeline : Timeline τ ε) (delay : τ) (event : ε) :
    (timeline.begin delay event).coming.Perm
      ((arrival timeline.now delay, some event) :: timeline.coming) := by
  simp only [begin, coming, List.map_append, List.map_cons, List.map_nil, ← List.append_assoc]
  exact List.perm_append_singleton _ _

theorem coming_enter (timeline : Timeline τ ε) (delay : τ) (event : Option ε) :
    (timeline.enter delay event).coming.Perm
      ((arrival timeline.now delay, event) :: timeline.coming) := by
  by_cases positive : 0 < delay
  · simp only [enter, arrival, positive, if_true, coming]
    have added := Agenda.add_perm timeline.agenda (timeline.now + delay) event
    exact ((added.append_left _).append_right _).trans (List.perm_middle.append_right _)
  · simp only [enter, arrival, positive, if_false, coming, List.map_append, List.map_cons,
      List.map_nil, List.append_assoc]
    exact List.perm_middle

theorem now_enter (timeline : Timeline τ ε) (delay : τ) (event : Option ε) :
    (timeline.enter delay event).now = timeline.now := by
  unfold enter
  split <;> rfl

theorem begun_enter (timeline : Timeline τ ε) (delay : τ) (event : Option ε) :
    (timeline.enter delay event).begun = timeline.begun := by
  unfold enter
  split <;> rfl

theorem length_coming (timeline : Timeline τ ε) : timeline.coming.length = timeline.size := by
  simp [coming, size, Agenda.contents, Nat.add_assoc]

/-! ## The present -/

/-- The agenda is in order, and nothing on it is past. -/
structure Proper (timeline : Timeline τ ε) : Prop where
  ordered : Agenda.Ordered timeline.agenda.events
  notPast : ∀ event ∈ timeline.agenda.contents, timeline.now ≤ event.1

/-- An event that has become void. -/
def IsVoid (isLive : ε → Bool) (event : Option ε) : Prop :=
  event.all isLive = false

/-- When nothing is due the present moves to the next time, if there is one. -/
theorem proceed_spec {timeline : Timeline τ ε} (proper : timeline.Proper) (idle : timeline.due = [])
    (released : timeline.begun = []) (isLive : ε → Bool) :
    (timeline.proceed isLive = timeline ∧ ∀ event ∈ timeline.coming, IsVoid isLive event.2) ∨
    ((timeline.proceed isLive).due ≠ [] ∧ (timeline.proceed isLive).Proper ∧
      timeline.now ≤ (timeline.proceed isLive).now ∧
      ∃ void, timeline.coming ~ void ++ (timeline.proceed isLive).coming ∧
        ∀ event ∈ void, IsVoid isLive event.2) := by
  rcases Agenda.purge_spec proper.ordered fun event => event.all isLive with
    ⟨⟨void, same, isVoid⟩, ordered⟩
  have all : timeline.coming = timeline.agenda.contents := by
    simp [coming, idle, released]
  cases found : (timeline.agenda.purge fun event => event.all isLive).next? with
  | none =>
    have rest := Agenda.contents_eq_nil_of_next? found
    refine Or.inl ⟨by simp [proceed, found], fun event member => ?_⟩
    rw [rest, List.append_nil] at same
    rw [all] at member
    exact isVoid event (same.mem_iff.mp member)
  | some next =>
    rcases next with ⟨time, due, agenda⟩
    rcases Agenda.next?_spec ordered found with ⟨some, coming, least, kept⟩
    rcases Agenda.purge_spec kept fun event => event.all isLive with
      ⟨⟨later, rest, laterVoid⟩, purged⟩
    have result : timeline.proceed isLive = { timeline with
        now := time, due := due, agenda := agenda.purge fun event => event.all isLive } := by
      simp [proceed, found]
    have notPast : ∀ event ∈ due.map (fun event => (time, event)) ++ agenda.contents,
        event ∈ timeline.agenda.contents ∧ time ≤ event.1 := by
      intro event member
      have waits := coming.mem_iff.mpr member
      exact ⟨same.mem_iff.mpr (List.mem_append_right void waits), least event waits⟩
    rw [result]
    -- What is void is left out twice: before the next time is looked for, and after it is taken out.
    refine Or.inr ⟨some, ⟨purged, fun event member => ?_⟩, ?_, void ++ later, ?_, ?_⟩
    · have waits := rest.mem_iff.mpr (List.mem_append_right later member)
      exact (notPast event (List.mem_append_right _ waits)).2
    · rcases List.exists_mem_of_ne_nil due some with ⟨event, member⟩
      have waits := List.mem_map_of_mem (f := fun event => (time, event)) member
      exact proper.notPast _ (notPast _ (List.mem_append_left _ waits)).1
    · rw [all]
      simp only [Timeline.coming, released, List.map_nil, List.append_nil]
      calc
        timeline.agenda.contents
          ~ void ++ (due.map (fun event => (time, event)) ++ agenda.contents) :=
            same.trans (coming.append_left void)
        _ ~ void ++ (due.map (fun event => (time, event)) ++ (later ++
              (agenda.purge fun event => event.all isLive).contents)) :=
            (rest.append_left _).append_left _
        _ ~ void ++ (later ++ (due.map (fun event => (time, event)) ++
              (agenda.purge fun event => event.all isLive).contents)) := by
            refine List.Perm.append_left _ ?_
            rw [← List.append_assoc, ← List.append_assoc]
            exact List.perm_append_comm.append_right _
        _ = void ++ later ++ (due.map (fun event => (time, event)) ++
              (agenda.purge fun event => event.all isLive).contents) :=
            (List.append_assoc _ _ _).symm
    · intro event member
      rcases List.mem_append.mp member with old | new
      · exact isVoid event old
      · exact laterVoid event new

/-- What is due comes first. -/
theorem coming_of_due {timeline : Timeline τ ε} {event : Option ε} {rest : List (Option ε)}
    (due : timeline.due = event :: rest) :
    timeline.coming = (timeline.now, event) :: { timeline with due := rest }.coming := by
  simp [coming, due]

variable [IsOrderedCancelAddMonoid τ]

theorem le_arrival (now delay : τ) : now ≤ arrival now delay := by
  unfold arrival
  split
  · next positive => exact le_of_lt (lt_add_of_pos_right now positive)
  · exact le_refl now

/-- Nothing that is to come is past. -/
theorem Proper.now_le {timeline : Timeline τ ε} (proper : timeline.Proper)
    {event : τ × Option ε} (member : event ∈ timeline.coming) : timeline.now ≤ event.1 := by
  rcases List.mem_append.mp member with entered | begun
  · rcases List.mem_append.mp entered with due | later
    · rcases List.mem_map.mp due with ⟨_, _, rfl⟩
      exact le_refl _
    · exact proper.notPast event later
  · rcases List.mem_map.mp begun with ⟨⟨delay, _⟩, _, rfl⟩
    exact le_arrival timeline.now delay

theorem Proper.enter {timeline : Timeline τ ε} (proper : timeline.Proper) (delay : τ)
    (event : Option ε) : (timeline.enter delay event).Proper := by
  by_cases positive : 0 < delay
  · simp only [Timeline.enter, positive, if_true]
    refine ⟨Agenda.ordered_add proper.ordered _ _, fun other member => ?_⟩
    rcases List.mem_cons.mp ((Agenda.add_perm _ _ _).mem_iff.mp member) with rfl | old
    · exact le_of_lt (lt_add_of_pos_right _ positive)
    · exact proper.notPast other old
  · simp only [Timeline.enter, positive, if_false]
    exact ⟨proper.ordered, proper.notPast⟩

/-- Entering several events, one after the other. -/
theorem foldl_enter (events : List (τ × ε)) {timeline : Timeline τ ε} (proper : timeline.Proper) :
    let entered := events.foldl (fun timeline (delay, event) => timeline.enter delay (some event))
      timeline
    entered.Proper ∧ entered.now = timeline.now ∧ entered.begun = timeline.begun ∧
      entered.coming.Perm
        (events.map (fun (delay, event) => (arrival timeline.now delay, some event)) ++
          timeline.coming) := by
  induction events generalizing timeline with
  | nil => exact ⟨proper, rfl, rfl, List.Perm.refl _⟩
  | cons first rest inductionHypothesis =>
    rcases first with ⟨delay, event⟩
    rcases inductionHypothesis (proper.enter delay (some event)) with ⟨proper, now, begun, coming⟩
    rw [now_enter] at now coming
    rw [begun_enter] at begun
    refine ⟨proper, now, begun, coming.trans ?_⟩
    exact ((coming_enter timeline delay (some event)).append_left _).trans List.perm_middle

/-- What has been begun is entered, except for what has become void. -/
theorem release_spec {timeline : Timeline τ ε} (proper : timeline.Proper) (isLive : ε → Bool) :
    (timeline.release isLive).Proper ∧ (timeline.release isLive).now = timeline.now ∧
      (timeline.release isLive).begun = [] ∧
      ∃ void, timeline.coming.Perm (void ++ (timeline.release isLive).coming) ∧
        ∀ event ∈ void, IsVoid isLive event.2 := by
  let waiting : Timeline τ ε := { timeline with begun := [] }
  let time (entry : τ × ε) : τ × Option ε := (arrival timeline.now entry.1, some entry.2)
  let live := timeline.begun.filter fun entry => isLive entry.2
  let void := timeline.begun.filter fun entry => !isLive entry.2
  have proper : waiting.Proper := ⟨proper.ordered, proper.notPast⟩
  rcases foldl_enter live proper with ⟨released, now, begun, coming⟩
  refine ⟨released, now, begun, void.map time, ?_, ?_⟩
  · have whole : timeline.coming = waiting.coming ++ timeline.begun.map time := by
      simp only [Timeline.coming, waiting, List.map_nil, List.append_nil]
      rfl
    have parts : (timeline.begun.map time).Perm (live.map time ++ void.map time) := by
      rw [← List.map_append]
      exact (List.filter_append_perm _ _).symm.map time
    rw [whole]
    calc
      waiting.coming ++ timeline.begun.map time
        ~ waiting.coming ++ (live.map time ++ void.map time) := parts.append_left _
      _ ~ (live.map time ++ void.map time) ++ waiting.coming := List.perm_append_comm
      _ ~ (void.map time ++ live.map time) ++ waiting.coming :=
        List.perm_append_comm.append_right _
      _ = void.map time ++ (live.map time ++ waiting.coming) := List.append_assoc _ _ _
      _ ~ void.map time ++ (timeline.release isLive).coming := coming.symm.append_left _
  · intro event member
    rcases List.mem_map.mp member with ⟨entry, isVoid, rfl⟩
    simpa [IsVoid, time] using (List.mem_filter.mp isVoid).2

/-- The next event comes at its time, and nothing that is left is earlier; what is left out is
void. -/
theorem next?_eq_some {timeline result : Timeline τ ε} (proper : timeline.Proper)
    {isLive : ε → Bool} {event : Option ε} (found : timeline.next? isLive = some (event, result)) :
    result.Proper ∧ timeline.now ≤ result.now ∧
      ∃ void, timeline.coming ~ (result.now, event) :: (void ++ result.coming) ∧
        ∀ other ∈ void, IsVoid isLive other.2 := by
  rcases release_spec proper isLive with ⟨released, now, begun, void, coming, isVoid⟩
  -- The event was due already, or became due when what had begun was entered, or later.
  cases due : timeline.due with
  | cons first rest =>
    obtain ⟨rfl, rfl⟩ : first = event ∧ { timeline with due := rest } = result := by
      simpa [next?, due] using found
    exact ⟨⟨proper.ordered, proper.notPast⟩, le_refl _, [], by rw [coming_of_due due]; rfl, nofun⟩
  | nil =>
    cases dueNow : (timeline.release isLive).due with
    | cons first rest =>
      obtain ⟨rfl, rfl⟩ : first = event ∧ { timeline.release isLive with due := rest } = result := by
        simpa [next?, due, dueNow] using found
      rw [coming_of_due dueNow] at coming
      exact ⟨⟨released.ordered, released.notPast⟩, le_of_eq now.symm, void,
        coming.trans List.perm_middle, isVoid⟩
    | nil =>
      rcases proceed_spec released dueNow begun isLive with
        ⟨same, _⟩ | ⟨some, later, past, struck, comingThen, isStruck⟩
      · simp [next?, due, dueNow, same] at found
      · rcases List.exists_cons_of_ne_nil some with ⟨first, rest, dueThen⟩
        obtain ⟨rfl, rfl⟩ : first = event ∧
            { (timeline.release isLive).proceed isLive with due := rest } = result := by
          simpa [next?, due, dueNow, dueThen] using found
        rw [coming_of_due dueThen] at comingThen
        refine ⟨⟨later.ordered, later.notPast⟩, now ▸ past, void ++ struck, ?_, ?_⟩
        · refine coming.trans ((comingThen.append_left void).trans ?_)
          rw [← List.append_assoc]
          exact List.perm_middle
        · intro other member
          rcases List.mem_append.mp member with old | new
          · exact isVoid other old
          · exact isStruck other new

/-- What is left out when the next event comes is never the end of a time that is waited for. -/
theorem ends_of_next?_eq_some {timeline result : Timeline τ ε} (proper : timeline.Proper)
    {isLive : ε → Bool} {event : Option ε} (found : timeline.next? isLive = some (event, result)) :
    ends timeline.coming ~ ends ((result.now, event) :: result.coming) := by
  rcases next?_eq_some proper found with ⟨_, _, void, coming, isVoid⟩
  have none : ends void = [] := by
    refine List.filter_eq_nil_iff.mpr fun other member isEnd => ?_
    have struck := isVoid other member
    rw [IsVoid, Option.isNone_iff_eq_none.mp isEnd] at struck
    cases struck
  have same := coming.filter fun event => event.2.isNone
  simp only [List.filter_cons, List.filter_append] at same
  rw [ends] at none
  rw [none, List.nil_append] at same
  simpa only [ends, List.filter_cons] using same

/-- There is a next event unless everything that is to come is void. -/
theorem isVoid_of_next?_eq_none {timeline : Timeline τ ε} (proper : timeline.Proper)
    {isLive : ε → Bool} (nothing : timeline.next? isLive = none) :
    ∀ event ∈ timeline.coming, IsVoid isLive event.2 := by
  rcases release_spec proper isLive with ⟨released, now, begun, void, coming, isVoid⟩
  cases due : timeline.due with
  | cons first rest => simp [next?, due] at nothing
  | nil =>
    cases dueNow : (timeline.release isLive).due with
    | cons first rest => simp [next?, due, dueNow] at nothing
    | nil =>
      rcases proceed_spec released dueNow begun isLive with ⟨_, restVoid⟩ | ⟨some, _⟩
      · intro event member
        rcases List.mem_append.mp (coming.mem_iff.mp member) with old | new
        · exact isVoid event old
        · exact restVoid event new
      · rcases List.exists_cons_of_ne_nil some with ⟨first, rest, dueThen⟩
        simp [next?, due, dueNow, dueThen] at nothing

end Timeline

end HomeConfig
