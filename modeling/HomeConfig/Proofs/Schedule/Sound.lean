import HomeConfig.Proofs.Schedule.Run
import Mathlib.Data.List.Nodup

/-!
# Passes and tables

A schedule keeps three things of its passes: the passes themselves, the waiting one of each
document, and the latest one of each document.  `Sound` says how they belong together, and every
event keeps it.

The waiting passes are exactly the entries of the table of pending ones, so a request never leaves
two of them for one document.  Nothing of this kind holds of running passes: any number of them may
be under way for one document, and only their numbers tell them apart.
-/

namespace HomeConfig

namespace Schedule

variable {δ : Type} {state : Schedule}

/-- How the passes and the two tables of a schedule belong together. -/
structure Sound (state : Schedule) : Prop where
  number_le : ∀ pass ∈ state.passes, pass.number ≤ state.issued
  distinct : (state.passes.map Pass.number).Nodup
  waiting_iff : ∀ uri number,
    state.pending.find? uri = some number ↔ (⟨number, uri, .waiting⟩ : Pass) ∈ state.passes
  latest_of_waiting : ∀ pass ∈ state.passes, pass.phase = .waiting →
    state.latest.find? pass.uri = some pass.number
  latest_le : ∀ uri number, state.latest.find? uri = some number → number ≤ state.issued
  latest_uri : ∀ uri, ∀ pass ∈ state.passes,
    state.latest.find? uri = some pass.number → pass.uri = uri

/-! ## Lists of passes -/

theorem mem_without {number : Option Nat} {passes : List Pass} {pass : Pass} :
    pass ∈ without number passes ↔ pass ∈ passes ∧ number ≠ some pass.number := by
  rw [without, List.mem_filter, bne_iff_ne, ne_comm]

theorem without_sublist (number : Option Nat) (passes : List Pass) :
    (without number passes).Sublist passes :=
  List.filter_sublist

/-- A pass that begins to run keeps its number and its document. -/
theorem mem_begin {number : Nat} {passes : List Pass} {pass : Pass} :
    pass ∈ begin number passes ↔
      (pass ∈ passes ∧ pass.number ≠ number) ∨
        ∃ phase, ⟨number, pass.uri, phase⟩ ∈ passes ∧ pass = ⟨number, pass.uri, .running⟩ := by
  unfold begin
  rw [List.mem_map]
  constructor
  · rintro ⟨old, member, rfl⟩
    by_cases same : old.number = number
    · subst same
      exact Or.inr ⟨old.phase, by simp [member], by simp⟩
    · exact Or.inl ⟨by simp [same, member], by simp [same]⟩
  · rintro (⟨member, different⟩ | ⟨phase, member, shape⟩)
    · exact ⟨pass, member, if_neg different⟩
    · exact ⟨_, member, by rw [shape]; simp⟩

theorem map_number_begin (number : Nat) (passes : List Pass) :
    (begin number passes).map Pass.number = passes.map Pass.number := by
  unfold begin
  rw [List.map_map]
  apply List.map_congr_left
  intro pass _
  by_cases same : pass.number = number <;> simp [same]

theorem find?_eq_some {number : Nat} {phase : Pass.Phase} {pass : Pass}
    (found : state.find? number phase = some pass) :
    pass ∈ state.passes ∧ pass.number = number ∧ pass.phase = phase := by
  have holds := List.find?_some found
  exact ⟨List.mem_of_find?_eq_some found, by simpa using holds⟩

namespace Sound

/-- Two passes with one number are one pass. -/
theorem eq_of_number_eq (sound : state.Sound) {first second : Pass}
    (firstMember : first ∈ state.passes) (secondMember : second ∈ state.passes)
    (same : first.number = second.number) : first = second :=
  List.inj_on_of_nodup_map sound.distinct firstMember secondMember same

theorem find?_of_mem (sound : state.Sound) {pass : Pass} (member : pass ∈ state.passes) :
    state.find? pass.number pass.phase = some pass := by
  unfold find?
  cases found : state.passes.find? fun other =>
      other.number = pass.number ∧ other.phase = pass.phase with
  | none => simpa using List.find?_eq_none.mp found pass member
  | some other =>
    have holds : other.number = pass.number ∧ other.phase = pass.phase := by
      simpa using List.find?_some found
    rw [sound.eq_of_number_eq (List.mem_of_find?_eq_some found) member holds.1]

theorem pending_of_waiting (sound : state.Sound) {pass : Pass} (member : pass ∈ state.passes)
    (waiting : pass.phase = .waiting) : state.pending.find? pass.uri = some pass.number := by
  rcases pass with ⟨number, uri, phase⟩
  subst waiting
  exact (sound.waiting_iff uri number).mpr member

/-- What a request or a cancellation takes away is the waiting pass of that very document. -/
theorem mem_without_pending (sound : state.Sound) (uri : String) {pass : Pass} :
    pass ∈ without (state.pending.find? uri) state.passes ↔
      pass ∈ state.passes ∧ ¬(pass.uri = uri ∧ pass.phase = .waiting) := by
  rw [mem_without]
  refine and_congr_right fun member => not_congr ⟨fun pending => ?_, ?_⟩
  · have waiting := (sound.waiting_iff uri pass.number).mp pending
    have same := sound.eq_of_number_eq member waiting rfl
    rw [same]
    exact ⟨rfl, rfl⟩
  · rintro ⟨rfl, waiting⟩
    exact sound.pending_of_waiting member waiting

end Sound

/-! ## Every event keeps it -/

theorem sound_empty : Schedule.empty.Sound where
  number_le := by simp [empty]
  distinct := List.nodup_nil
  waiting_iff := by simp [empty]
  latest_of_waiting := by simp [empty]
  latest_le := by simp [empty]
  latest_uri := by simp [empty]

namespace Sound

theorem mem_schedule (sound : state.Sound) (uri : String) {pass : Pass} :
    pass ∈ (state.schedule uri).passes ↔
      (pass ∈ state.passes ∧ ¬(pass.uri = uri ∧ pass.phase = .waiting)) ∨
        pass = ⟨state.issued + 1, uri, .waiting⟩ := by
  simp only [schedule, List.mem_append, List.mem_singleton, sound.mem_without_pending]

theorem mem_cancel (sound : state.Sound) (uri : String) {pass : Pass} :
    pass ∈ (state.cancel uri).passes ↔
      pass ∈ state.passes ∧ ¬(pass.uri = uri ∧ pass.phase = .waiting) :=
  sound.mem_without_pending uri

theorem mem_start (sound : state.Sound) {started pass : Pass} (present : started ∈ state.passes) :
    pass ∈ (state.start started).passes ↔
      (pass ∈ state.passes ∧ pass.number ≠ started.number) ∨
        pass = { started with phase := .running } := by
  rw [start, mem_begin]
  refine or_congr_right ⟨?_, ?_⟩
  · rintro ⟨phase, member, shape⟩
    have same := sound.eq_of_number_eq member present rfl
    rw [shape, ← same]
  · rintro rfl
    exact ⟨started.phase, present, rfl⟩

theorem mem_ended {number : Nat} {pass : Pass} :
    pass ∈ (state.ended number).passes ↔ pass ∈ state.passes ∧ pass.number ≠ number := by
  simp only [ended, mem_without, ne_eq, Option.some.injEq, eq_comm]

/-- The new pass has a number that no other pass ever had. -/
protected theorem schedule (sound : state.Sound) (uri : String) : (state.schedule uri).Sound where
  number_le := by
    intro pass member
    rcases (sound.mem_schedule uri).mp member with ⟨old, _⟩ | rfl
    · exact Nat.le_succ_of_le (sound.number_le pass old)
    · exact Nat.le_refl _
  distinct := by
    simp only [schedule, List.map_append, List.map_cons, List.map_nil]
    refine List.nodup_append.mpr
      ⟨sound.distinct.sublist ((without_sublist _ _).map _), List.nodup_singleton _, ?_⟩
    intro number old new fresh
    rcases List.mem_map.mp old with ⟨pass, member, rfl⟩
    have bound := sound.number_le pass (mem_without.mp member).1
    have new := List.mem_singleton.mp fresh
    omega
  waiting_iff := by
    intro other number
    rw [sound.mem_schedule]
    by_cases same : other = uri
    · subst same
      simp [schedule, eq_comm]
    · have pending : (state.schedule uri).pending.find? other = state.pending.find? other :=
        Table.find?_insert_of_ne _ same _
      rw [pending, sound.waiting_iff]
      simp [same]
  latest_of_waiting := by
    intro pass member waiting
    rw [schedule_latest]
    rcases (sound.mem_schedule uri).mp member with ⟨old, kept⟩ | rfl
    · have different : pass.uri ≠ uri := fun same => kept ⟨same, waiting⟩
      rw [Table.find?_insert_of_ne _ different]
      exact sound.latest_of_waiting pass old waiting
    · exact Table.find?_insert_self _ _ _
  latest_le := by
    intro other number
    rw [schedule_latest, Table.find?_insert]
    split
    · intro new
      exact Nat.le_of_eq (Option.some.inj new).symm
    · intro old
      exact Nat.le_succ_of_le (sound.latest_le other number old)
  latest_uri := by
    intro other pass member
    rw [schedule_latest, Table.find?_insert]
    rcases (sound.mem_schedule uri).mp member with ⟨old, _⟩ | rfl
    · split
      · intro new
        have bound := sound.number_le pass old
        have same := Option.some.inj new
        omega
      · exact sound.latest_uri other pass old
    · split
      · intro _
        exact Eq.symm ‹_›
      · intro old
        exact absurd (sound.latest_le other _ old) (Nat.not_succ_le_self _)

protected theorem cancel (sound : state.Sound) (uri : String) : (state.cancel uri).Sound where
  number_le := fun pass member => sound.number_le pass ((sound.mem_cancel uri).mp member).1
  distinct := sound.distinct.sublist ((without_sublist _ _).map _)
  waiting_iff := by
    intro other number
    rw [sound.mem_cancel, ← sound.waiting_iff]
    simp only [cancel, Table.find?_erase]
    by_cases same : other = uri <;> simp [same]
  latest_of_waiting := by
    intro pass member waiting
    rcases (sound.mem_cancel uri).mp member with ⟨old, kept⟩
    have different : pass.uri ≠ uri := fun same => kept ⟨same, waiting⟩
    rw [cancel_latest, Table.find?_erase_of_ne _ different]
    exact sound.latest_of_waiting pass old waiting
  latest_le := by
    intro other number
    rw [cancel_latest, Table.find?_erase]
    split
    · simp
    · exact sound.latest_le other number
  latest_uri := by
    intro other pass member
    rw [cancel_latest, Table.find?_erase]
    split
    · simp
    · exact sound.latest_uri other pass ((sound.mem_cancel uri).mp member).1

/-- A waiting pass that runs leaves the table of pending ones, and only its own entry goes. -/
protected theorem start (sound : state.Sound) {pass : Pass} (member : pass ∈ state.passes)
    (waiting : pass.phase = .waiting) : (state.start pass).Sound where
  number_le := by
    intro other present
    rcases (sound.mem_start member).mp present with ⟨old, _⟩ | rfl
    · exact sound.number_le other old
    · exact sound.number_le pass member
  distinct := by
    simpa only [start, map_number_begin] using sound.distinct
  waiting_iff := by
    intro uri number
    have own := sound.pending_of_waiting member waiting
    rw [sound.mem_start member]
    simp only [start, own, if_true, Table.find?_erase]
    by_cases same : uri = pass.uri
    · subst same
      simp only [if_true, reduceCtorEq, false_iff]
      rintro (⟨old, different⟩ | shape)
      · have pending := (sound.waiting_iff pass.uri number).mpr old
        exact different (Option.some.inj (pending.symm.trans own))
      · simp at shape
    · rw [if_neg same, sound.waiting_iff]
      constructor
      · intro old
        refine Or.inl ⟨old, fun number => same ?_⟩
        exact congrArg Pass.uri (sound.eq_of_number_eq old member number)
      · rintro (⟨old, _⟩ | shape)
        · exact old
        · simp at shape
  latest_of_waiting := by
    intro other present stillWaiting
    rcases (sound.mem_start member).mp present with ⟨old, _⟩ | rfl
    · exact sound.latest_of_waiting other old stillWaiting
    · cases stillWaiting
  latest_le := sound.latest_le
  latest_uri := by
    intro uri other present
    rcases (sound.mem_start member).mp present with ⟨old, _⟩ | rfl
    · exact sound.latest_uri uri other old
    · exact sound.latest_uri uri pass member

/-- A running pass ends; no table of waiting passes knows it any more. -/
protected theorem ended (sound : state.Sound) {pass : Pass} (member : pass ∈ state.passes)
    (running : pass.phase = .running) : (state.ended pass.number).Sound where
  number_le := fun other present => sound.number_le other (mem_ended.mp present).1
  distinct := sound.distinct.sublist ((without_sublist _ _).map _)
  waiting_iff := by
    intro uri number
    rw [mem_ended, ended]
    refine (sound.waiting_iff uri number).trans ⟨fun old => ⟨old, fun same => ?_⟩, And.left⟩
    have equal := sound.eq_of_number_eq old member same
    rw [← equal] at running
    cases running
  latest_of_waiting := fun other present =>
    sound.latest_of_waiting other (mem_ended.mp present).1
  latest_le := sound.latest_le
  latest_uri := fun uri other present => sound.latest_uri uri other (mem_ended.mp present).1

protected theorem shutDown (state : Schedule) : state.shutDown.Sound where
  number_le := by simp [shutDown]
  distinct := List.nodup_nil
  waiting_iff := by simp [shutDown]
  latest_of_waiting := by simp [shutDown]
  latest_le := by simp [shutDown]
  latest_uri := by simp [shutDown]

protected theorem change (sound : state.Sound) {event : Event δ} {result : Schedule}
    (change : Change state event result) : result.Sound := by
  cases change with
  | requested uri => exact sound.schedule uri
  | forgotten uri => exact sound.cancel uri
  | started found =>
    rcases find?_eq_some found with ⟨member, _, waiting⟩
    exact sound.start member waiting
  | finished found outcome =>
    rcases find?_eq_some found with ⟨member, rfl, running⟩
    exact sound.ended member running
  | stopped => exact Sound.shutDown state
  | expiredLate _ => exact sound
  | completedLate _ _ => exact sound

/-- A run keeps what each of its events keeps. -/
protected theorem after (sound : state.Sound) (events : List (Event δ)) :
    (state.after events).Sound := by
  induction events generalizing state with
  | nil => exact sound
  | cons event later inductionHypothesis =>
    exact inductionHypothesis (sound.change (change_next state event))

end Sound

theorem sound_after (history : List (Event δ)) : (empty.after history).Sound :=
  sound_empty.after history

end Schedule

end HomeConfig
