import HomeConfig.Proofs.Schedule.Alone
import HomeConfig.Proofs.Schedule.Lifetime

/-!
# Passes and tables in step

A schedule keeps a table of the passes that wait and a table of the latest ones, by their documents,
and it changes the two at different points.  `InStep` says how they belong together with the passes
and with what has happened, after any run.

Two things take a pass away.  A waiting one goes when its document is asked for again or forgotten,
and then it is never checked.  A running one stays in either case, and only the end of everything
takes it away.
-/

namespace HomeConfig

namespace Schedule

variable {δ : Type} {state : Schedule}

/-! ## Passes that are taken away -/

theorem ending_eq_cancelled_iff (effects : List (Effect δ)) (event : Event δ) :
    ending effects event = .cancelled ↔ ∀ number outcome, event ≠ .complete number outcome := by
  cases event with
  | complete number outcome =>
    refine iff_of_false ?_ fun all => all number outcome rfl
    simp only [ending]
    split <;> simp
  | _ => simp [ending]

/-- A waiting pass is taken away by the next request for its document, when its document is
forgotten, and when everything ends. -/
theorem Sound.turn?_waiting (sound : state.Sound) (event : Event δ) {pass : Pass}
    (member : pass ∈ state.passes) (waiting : pass.phase = .waiting) :
    state.turn? event pass = some .cancelled ↔ event.overrules pass.uri = true := by
  rcases pass with ⟨number, uri, phase⟩
  subst waiting
  have old : number ≠ state.issued + 1 :=
    Nat.ne_of_lt (Nat.lt_succ_of_le (sound.number_le _ member))
  have idle : ⟨number, uri, .running⟩ ∉ state.passes := fun running => by
    simpa using sound.eq_of_number_eq member running rfl
  have stays := sound.waiting_mem_change (change_next state event) uri number
  have starts := sound.running_mem_change (change_next state event) uri number
  rw [or_iff_right fun new => old new.2, and_iff_left member] at stays
  rw [or_iff_left fun before => idle before.2, sound.check_mem_step_iff, and_iff_left member]
    at starts
  rw [turn?]
  by_cases ends : event.EndsWait uri number
  · rw [if_neg fun there => stays.mp there ends]
    by_cases expired : event = .expire number
    · rw [if_pos (starts.mpr expired), expired]
      simp [Event.overrules]
    · rw [if_neg (mt starts.mp expired), Option.some.injEq, ending_eq_cancelled_iff]
      have overruled := ends.resolve_left expired
      refine iff_of_true (fun other outcome completed => ?_) overruled
      rw [completed] at overruled
      cases overruled
  · rw [if_pos (stays.mpr ends)]
    simpa using fun overruled => ends (Or.inr overruled)

/-- A running pass is taken away only when everything ends. -/
theorem Sound.turn?_running (sound : state.Sound) (event : Event δ) {pass : Pass}
    (member : pass ∈ state.passes) (running : pass.phase = .running) :
    state.turn? event pass = some .cancelled ↔ event = .shutDown := by
  rcases pass with ⟨number, uri, phase⟩
  subst running
  have silent : .check number uri ∉ (state.step event).1 := fun begins => by
    have waiting := ((sound.check_mem_step_iff event uri number).mp begins).2
    simpa using sound.eq_of_number_eq member waiting rfl
  have stays := sound.running_mem_change (change_next state event) uri number
  rw [or_iff_right silent, and_iff_left member] at stays
  rw [turn?]
  by_cases ends : event.EndsCheck number
  · rw [if_neg fun there => stays.mp there ends, if_neg fun there => stays.mp there ends,
      Option.some.injEq, ending_eq_cancelled_iff]
    rcases ends with rfl | ⟨outcome, rfl⟩ <;> simp
  · rw [if_pos (stays.mpr ends)]
    simpa using fun stopped => ends (Or.inl stopped)

/-! ## Numbers -/

/-- The pass whose countdown is to begin. -/
def Effect.countDown? : Effect δ → Option Nat
  | .countDown number => some number
  | _ => none

/-- The passes whose countdowns begin in a run, in their order. -/
def countDowns : Schedule → List (Event δ) → List Nat
  | _, [] => []
  | state, event :: later =>
    (state.step event).1.filterMap Effect.countDown? ++ countDowns (state.next event) later

theorem filterMap_countDown? (state : Schedule) (event : Event δ) :
    (state.step event).1.filterMap Effect.countDown? =
      List.range' (state.issued + 1) (requests [event]) := by
  cases event with
  | schedule uri => rfl
  | cancel uri => rfl
  | shutDown => rfl
  | expire number =>
    cases found : state.expire? number <;> simp [step, found, Effect.countDown?, requests]
  | complete number outcome =>
    cases ended : (state.complete number outcome).1 <;>
      simp [step, ended, Effect.countDown?, requests]

/-- Passes are numbered one after the other, and the last number is that of the count. -/
theorem countDowns_eq (state : Schedule) (events : List (Event δ)) :
    countDowns state events = List.range' (state.issued + 1) (requests events) := by
  induction events generalizing state with
  | nil => rfl
  | cons event later inductionHypothesis =>
    have split : requests (event :: later) = requests [event] + requests later :=
      requests_append [event] later
    rw [countDowns, filterMap_countDown?, inductionHypothesis, (change_next state event).issued,
      split, Nat.add_right_comm, ← List.range'_append_1]

/-- The waiting passes are the entries of the table of pending ones. -/
theorem Sound.pending_perm (sound : state.Sound) :
    (state.pending.entries.map fun entry => (⟨entry.2, entry.1, .waiting⟩ : Pass)).Perm
      (state.passes.filter fun pass => pass.phase = .waiting) := by
  refine (List.perm_ext_iff_of_nodup ?_ ?_).mpr fun pass => ?_
  · exact (List.Nodup.of_map _ state.pending.unique).map fun first second same =>
      Prod.ext (congrArg Pass.uri same) (congrArg Pass.number same)
  · exact (List.Nodup.of_map _ sound.distinct).filter _
  · rcases pass with ⟨number, uri, phase⟩
    rw [List.mem_map, List.mem_filter, decide_eq_true_iff]
    constructor
    · rintro ⟨entry, member, shape⟩
      cases shape
      exact ⟨(sound.waiting_iff _ _).mp (Table.mem_entries_iff _ |>.mp member), rfl⟩
    · rintro ⟨member, rfl⟩
      exact ⟨(uri, number), (Table.mem_entries_iff _).mpr ((sound.waiting_iff _ _).mpr member), rfl⟩

/-- So many documents have a pending pass as there are waiting passes. -/
theorem Sound.pending_size (sound : state.Sound) :
    state.pending.size = state.passes.countP fun pass => pass.phase = .waiting := by
  rw [Table.size, List.countP_eq_length_filter, ← sound.pending_perm.length_eq, List.length_map]

/-! ## Passes and tables after a run -/

/-- How the passes and the tables of a schedule belong together after a run. -/
structure InStep (history : List (Event δ)) : Prop where
  /-- The passes that wait are the entries of the table of pending ones. -/
  pending_iff : ∀ uri number, (empty.after history).pending.find? uri = some number ↔
    ⟨number, uri, .waiting⟩ ∈ (empty.after history).passes
  /-- They are those that have been asked for and whose waiting nothing has ended. -/
  waits_iff : ∀ uri number, ⟨number, uri, .waiting⟩ ∈ (empty.after history).passes ↔
    Waits uri number history
  /-- There is one for each document that has an entry. -/
  pending_size : (empty.after history).pending.size =
    (empty.after history).passes.countP fun pass => pass.phase = .waiting
  /-- The pending pass of a document is its latest one. -/
  latest_of_pending : ∀ uri number, (empty.after history).pending.find? uri = some number →
    (empty.after history).latest.find? uri = some number
  /-- All passes that there have been are numbered one after the other, up to the count. -/
  countDowns_eq : countDowns empty history = List.range' 1 (empty.after history).issued
  distinct : ((empty.after history).passes.map Pass.number).Nodup
  number_le : ∀ pass ∈ (empty.after history).passes, pass.number ≤ (empty.after history).issued
  /-- No two documents have one latest pass. -/
  latest_inj : ∀ first second number, (empty.after history).latest.find? first = some number →
    (empty.after history).latest.find? second = some number → first = second
  latest_le : ∀ uri number, (empty.after history).latest.find? uri = some number →
    number ≤ (empty.after history).issued
  /-- The check of a pass that was taken away while it waited never begins. -/
  not_begun : ∀ before event later, history = before ++ event :: later →
    ∀ pass ∈ (empty.after before).passes, pass.phase = .waiting →
      (empty.after before).turn? event pass = some .cancelled → ∀ uri, ¬ Begun uri pass.number history
  /-- The passes that run are those whose check has begun and not ended. -/
  runs_iff : ∀ uri number, ⟨number, uri, .running⟩ ∈ (empty.after history).passes ↔
    Runs uri number history
  /-- A pass whose check has begun is not pending. -/
  not_pending : ∀ uri number, Begun uri number history →
    ∀ other, (empty.after history).pending.find? other ≠ some number
  /-- Only the end of everything takes a running pass away. -/
  eq_shutDown : ∀ pass ∈ (empty.after history).passes, pass.phase = .running →
    ∀ event : Event δ, (empty.after history).turn? event pass = some .cancelled → event = .shutDown

/-- A pass that is taken away while it waits has not been checked before, is not checked then, and
never waits again. -/
theorem not_begun_of_cancelled {before : List (Event δ)} {event : Event δ} {pass : Pass}
    (member : pass ∈ (empty.after before).passes) (waiting : pass.phase = .waiting)
    (cancelled : (empty.after before).turn? event pass = some .cancelled) (later : List (Event δ))
    (uri : String) : ¬ Begun uri pass.number (before ++ event :: later) := by
  have sound := sound_after before
  have overruled := (sound.turn?_waiting event member waiting).mp cancelled
  have spent : Spent pass.number (empty.after (before ++ [event])) := by
    rw [after_concat]
    exact Spent.of_endsWait sound (change_next _ event) member (Or.inr overruled)
  have earlier : ¬ Begun uri pass.number before := by
    intro begun
    refine begun.spent.2 pass.uri ?_
    rwa [← waiting]
  have now : ¬ BeginsCheck uri pass.number before event := by
    intro begins
    rw [((sound.check_mem_step_iff event uri pass.number).mp begins).1] at overruled
    cases overruled
  rw [List.append_cons, spent.begun_append_iff, Begun, since_concat_iff, or_iff_right now,
    and_iff_right not_false]
  exact earlier

/-- In every run, the passes that wait are the entries of the table of pending ones, one for each
document, and each of them is the latest pass of its document.  No number is given twice, and none
is greater than the count.  What was taken away while it waited is never checked; what has begun is
not pending, and only the end of everything takes it away. -/
theorem passes_and_tables_are_in_step (history : List (Event δ)) : InStep history := by
  have sound := sound_after history
  constructor
  case pending_iff => exact sound.waiting_iff
  case waits_iff => exact waiting_after_iff history
  case pending_size => exact sound.pending_size
  case latest_of_pending =>
    intro uri number pending
    exact sound.latest_of_waiting _ ((sound.waiting_iff uri number).mp pending) rfl
  case countDowns_eq =>
    rw [countDowns_eq, issued_after_empty]
    rfl
  case distinct => exact sound.distinct
  case number_le => exact sound.number_le
  case latest_inj =>
    intro first second number latest same
    exact (owns_of_latest latest).uri_eq (owns_of_latest same)
  case latest_le => exact sound.latest_le
  case not_begun =>
    rintro before event later rfl pass member waiting cancelled uri
    exact not_begun_of_cancelled member waiting cancelled later uri
  case runs_iff => exact running_after_iff history
  case not_pending =>
    intro uri number begun other pending
    exact begun.spent.2 other ((sound.waiting_iff other number).mp pending)
  case eq_shutDown =>
    intro pass member running event cancelled
    exact (sound.turn?_running event member running).mp cancelled

/-- A run in which a pass is replaced before its countdown runs out, and another one while its check
runs. -/
def replaced : List (Event Nat) :=
  [.schedule "a", .schedule "b", .schedule "a", .expire 1, .expire 2, .schedule "b"]

/-- In `replaced` the first pass is taken away and is never checked, though its countdown runs out.
The second one is checked, and it goes on when the fourth one is pending in its place. -/
theorem replaced_passes_are_in_step :
    (∀ uri, ¬ Begun uri 1 replaced) ∧ Waits "b" 4 replaced ∧ Runs "b" 2 replaced ∧
      (empty.after replaced).latest.find? "b" = some 4 ∧
      (empty.after replaced).turn? (.shutDown : Event Nat) ⟨2, "b", .running⟩ = some .cancelled := by
  have inStep := passes_and_tables_are_in_step replaced
  refine ⟨?_, ?_, ?_, ?_, rfl⟩
  · exact inStep.not_begun [.schedule "a", .schedule "b"] (.schedule "a") _ rfl
      ⟨1, "a", .waiting⟩ (by decide) rfl rfl
  · exact (inStep.waits_iff "b" 4).mp (by decide)
  · exact (inStep.runs_iff "b" 2).mp (by decide)
  · exact inStep.latest_of_pending "b" 4 (by decide)

end Schedule

end HomeConfig
