import HomeConfig.Proofs.Rehearsal.Timeline
import HomeConfig.Proofs.Schedule.Starts
import HomeConfig.Rehearsal.Passes

/-!
# Checks wait until a document is left alone

A schedule that is rehearsed in time begins the checks that `Schedule.starts` tells of, each at its
time.  What makes it so is that the schedule, what is to come and the calls agree (`Debounced`): if a
pass of the document waits, then exactly one check that the calls want has not begun, and the one
countdown to come of this pass runs out at the time of that check.  Countdowns of other passes may
still be to come, also of passes of the same document, but nothing waits for them.

This holds for one document at a time, and no order is assumed in what comes at the same time.
-/

namespace HomeConfig

namespace Schedule

variable {δ : Type}

theorem complete_pending (state : Schedule) (number : Nat) (outcome : CheckOutcome δ) :
    (state.complete number outcome).2.pending = state.pending := by
  unfold complete
  split <;> rfl

theorem complete_issued (state : Schedule) (number : Nat) (outcome : CheckOutcome δ) :
    (state.complete number outcome).2.issued = state.issued := by
  unfold complete
  split <;> rfl

theorem Sound.complete {state : Schedule} (sound : state.Sound) (number : Nat)
    (outcome : CheckOutcome δ) : (state.complete number outcome).2.Sound :=
  sound.change (change_next state (.complete number outcome))

end Schedule

namespace PassRun

variable {τ δ : Type}

open Schedule

/-- How many checks of a document have been recorded. -/
def checks (uri : String) (run : PassRun τ δ) : Nat :=
  run.signs.countP fun
    | .checked other => other == uri
    | .published _ _ => false

theorem checks_conclude (uri : String) (run : PassRun τ δ) (verdict : Verdict δ) :
    checks uri (run.conclude verdict) = checks uri run := by
  cases verdict <;> simp [checks, conclude]

theorem checks_concat (uri other : String) (run : PassRun τ δ) :
    checks uri { run with signs := run.signs ++ [.checked other] } =
      checks uri run + if other = uri then 1 else 0 := by
  simp [checks, List.countP_append, List.countP_singleton]

/-- The end of a check changes nothing but what becomes of its pass. -/
theorem finish_spec (scene : Scene τ δ) (number : Nat) (outcome : CheckOutcome δ) (uri : String) :
    (finish scene number outcome).timeline = scene.timeline ∧
      (finish scene number outcome).state.delay = scene.state.delay ∧
      (finish scene number outcome).state.schedule =
        (scene.state.schedule.complete number outcome).2 ∧
      checks uri (finish scene number outcome).state = checks uri scene.state := by
  rcases ended : scene.state.schedule.complete number outcome with ⟨verdict, schedule⟩
  cases verdict with
  | none => simp [finish, ended, checks]
  | some verdict =>
    refine ⟨by simp [finish, ended], ?_, ?_, ?_⟩
    · cases verdict <;> simp [finish, ended, conclude]
    · cases verdict <;> simp [finish, ended, conclude]
    · simp only [finish, ended, Option.elim_some]
      exact checks_conclude uri _ verdict

variable [AddCommMonoid τ] [LinearOrder τ]

theorem happen_complete (scene : Scene τ δ) (number : Nat) (outcome : CheckOutcome δ) :
    happen (.complete number outcome) scene = finish scene number outcome := by
  simp only [happen, step, finish]
  cases (scene.state.schedule.complete number outcome).1 <;> rfl

theorem happen_expire_of_none {scene : Scene τ δ} {number : Nat}
    (missing : scene.state.schedule.find? number .waiting = none) :
    happen (.expire number) scene = scene := by
  simp [happen, step, expire?, missing]

theorem happen_expire {scene : Scene τ δ} {number : Nat} {pass : Pass}
    (found : scene.state.schedule.find? number .waiting = some pass) :
    happen (.expire number) scene =
      check { scene with state := { scene.state with
        schedule := scene.state.schedule.start pass } } pass.number pass.uri := by
  simp [happen, step, expire?, found, perform]

/-! ## What is kept while time passes -/

/-- What is to come to a schedule that is rehearsed. -/
abbrev Coming (τ δ : Type) := List (τ × Option (Event δ))

/-- Up to the present, the checks of a document have begun as the calls want it, each at its time:
all that were to start have started, but for the one that waits, if there is one, whose countdown is
to come. -/
structure Debounced (delay : τ) (uri : String) (calls : List (τ × Event δ)) (begun : List τ)
    (now : τ) (coming : Coming τ δ) (run : PassRun τ δ) : Prop where
  delay_eq : run.delay = delay
  sound : run.schedule.Sound
  counted : checks uri run = begun.length
  past : ∀ start ∈ begun, start ≤ now
  notPast : ∀ event ∈ coming, now ≤ event.1
  own : ∀ time event, (time, some event) ∈ coming →
    (∃ number ≤ run.schedule.issued, event = .expire number) ∨
      ∃ number outcome, event = .complete number outcome
  waiting : ∀ number, run.schedule.pending.find? uri = some number →
    ∃ start, starts delay uri calls = begun ++ [start] ∧
      (start, some (.expire number)) ∈ coming ∧
      ∀ time, (time, some (.expire number)) ∈ coming → time = start
  idle : run.schedule.pending.find? uri = none → starts delay uri calls = begun

namespace Debounced

variable {delay : τ} {uri : String} {calls : List (τ × Event δ)} {begun : List τ} {now : τ}
  {coming : Coming τ δ} {run : PassRun τ δ}

/-- Only the schedule of waiting passes and the checks that have begun matter. -/
theorem congr (debounced : Debounced delay uri calls begun now coming run) {other : PassRun τ δ}
    (delay_eq : other.delay = run.delay) (sound : other.schedule.Sound)
    (pending : other.schedule.pending.find? uri = run.schedule.pending.find? uri)
    (issued : other.schedule.issued = run.schedule.issued)
    (same : checks uri other = checks uri run) :
    Debounced delay uri calls begun now coming other where
  delay_eq := delay_eq.trans debounced.delay_eq
  sound := sound
  counted := same.trans debounced.counted
  past := debounced.past
  notPast := debounced.notPast
  own := issued ▸ debounced.own
  waiting := by
    rw [pending]
    exact debounced.waiting
  idle := by
    rw [pending]
    exact debounced.idle

/-- Time may pass, and what is void may be left out. -/
theorem later (debounced : Debounced delay uri calls begun now coming run) (rest : Coming τ δ)
    {time : τ} (past : now ≤ time) (notPast : ∀ event ∈ rest, time ≤ event.1)
    (less : ∀ event ∈ rest, event ∈ coming)
    (kept : ∀ start number, run.schedule.pending.find? uri = some number →
      (start, some (.expire number)) ∈ coming → (start, some (.expire number)) ∈ rest) :
    Debounced delay uri calls begun time rest run where
  delay_eq := debounced.delay_eq
  sound := debounced.sound
  counted := debounced.counted
  past := fun start member => (debounced.past start member).trans past
  notPast := notPast
  own := fun instant event member => debounced.own instant event (less _ member)
  waiting := by
    intro number pending
    rcases debounced.waiting number pending with ⟨start, split, there, only⟩
    exact ⟨start, split, kept start number pending there,
      fun instant member => only instant (less _ member)⟩
  idle := debounced.idle

theorem perm (debounced : Debounced delay uri calls begun now coming run) {other : Coming τ δ}
    (same : coming.Perm other) : Debounced delay uri calls begun now other run :=
  debounced.later other (le_refl now)
    (fun event member => debounced.notPast event (same.mem_iff.mpr member))
    (fun _ member => same.mem_iff.mpr member) fun _ _ _ member => same.mem_iff.mp member

/-- What comes and is not the countdown that is waited for does not matter. -/
theorem skip {event : τ × Option (Event δ)}
    (debounced : Debounced delay uri calls begun now (event :: coming) run)
    (apart : ∀ number, run.schedule.pending.find? uri = some number →
      event.2 ≠ some (.expire number)) : Debounced delay uri calls begun now coming run :=
  debounced.later coming (le_refl now)
    (fun other member => debounced.notPast other (List.mem_cons_of_mem _ member))
    (fun _ member => List.mem_cons_of_mem _ member) fun start number pending member => by
      rcases List.mem_cons.mp member with same | rest
      · exact absurd (congrArg Prod.snd same.symm) (apart number pending)
      · exact rest

/-- The end of a check may come in, and the end of a time that is waited for. -/
theorem add (debounced : Debounced delay uri calls begun now coming run) {time : τ}
    {event : Option (Event δ)} (notPast : now ≤ time)
    (idle : ∀ own ∈ event, ∃ number outcome, own = .complete number outcome) :
    Debounced delay uri calls begun now ((time, event) :: coming) run where
  delay_eq := debounced.delay_eq
  sound := debounced.sound
  counted := debounced.counted
  past := debounced.past
  notPast := List.forall_mem_cons.mpr ⟨notPast, debounced.notPast⟩
  own := by
    intro instant own member
    rcases List.mem_cons.mp member with new | old
    · cases new
      exact Or.inr (idle own rfl)
    · exact debounced.own instant own old
  waiting := by
    intro number pending
    rcases debounced.waiting number pending with ⟨start, split, there, only⟩
    refine ⟨start, split, List.mem_cons_of_mem _ there, ?_⟩
    intro instant member
    rcases List.mem_cons.mp member with new | present
    · cases new
      rcases idle _ rfl with ⟨_, _, shape⟩
      cases shape
    · exact only instant present
  idle := debounced.idle

theorem find?_of_pending (debounced : Debounced delay uri calls begun now coming run) {number : Nat}
    (pending : run.schedule.pending.find? uri = some number) :
    run.schedule.find? number .waiting = some ⟨number, uri, .waiting⟩ :=
  debounced.sound.find?_of_mem ((debounced.sound.waiting_iff uri number).mp pending)

/-- The countdown of the pass that waits is not void. -/
theorem not_isVoid (debounced : Debounced delay uri calls begun now coming run) {number : Nat}
    (pending : run.schedule.pending.find? uri = some number) :
    ¬Timeline.IsVoid (isLive run) (some (.expire number)) := by
  simp [Timeline.IsVoid, isLive, debounced.find?_of_pending pending]

/-! ## Countdowns -/

/-- The countdown of the document runs out.  The check that has waited begins, at its time. -/
theorem expireOwn {pass : Pass}
    (debounced : Debounced delay uri calls begun now
      ((now, some (.expire pass.number)) :: coming) run)
    (member : pass ∈ run.schedule.passes) (waits : pass.phase = .waiting) (own : pass.uri = uri) :
    Debounced delay uri calls (begun ++ [now]) now coming { run with
      schedule := run.schedule.start pass
      signs := run.signs ++ [.checked pass.uri] } := by
  have pending := debounced.sound.pending_of_waiting member waits
  have started : (run.schedule.start pass).pending.find? uri = none := by
    simp only [start, pending, if_true]
    rw [own, Table.find?_erase_self]
  rcases debounced.waiting pass.number (own ▸ pending) with ⟨start, split, _, only⟩
  exact {
    delay_eq := debounced.delay_eq
    sound := debounced.sound.start member waits
    counted := by
      rw [checks_concat uri pass.uri { run with schedule := run.schedule.start pass }, if_pos own,
        List.length_append]
      exact congrArg (· + 1) debounced.counted
    past := List.forall_mem_append.mpr ⟨debounced.past, by simp⟩
    notPast := fun event present => debounced.notPast event (List.mem_cons_of_mem _ present)
    own := fun time event present => debounced.own time event (List.mem_cons_of_mem _ present)
    waiting := fun number taken => by cases started.symm.trans taken
    idle := fun _ => by rw [split, only now List.mem_cons_self] }

/-- The countdown of another document runs out. -/
theorem expireOther {pass : Pass}
    (debounced : Debounced delay uri calls begun now
      ((now, some (.expire pass.number)) :: coming) run)
    (member : pass ∈ run.schedule.passes) (waits : pass.phase = .waiting) (other : pass.uri ≠ uri) :
    Debounced delay uri calls begun now coming { run with
      schedule := run.schedule.start pass
      signs := run.signs ++ [.checked pass.uri] } := by
  have pending := debounced.sound.pending_of_waiting member waits
  have apart : (run.schedule.start pass).pending.find? uri = run.schedule.pending.find? uri := by
    simp only [start, pending, if_true]
    exact Table.find?_erase_of_ne _ (Ne.symm other)
  -- A countdown that the document waits for would have the number of a pass of that document.
  have kept : Debounced delay uri calls begun now coming run := by
    refine debounced.skip fun number taken same => ?_
    cases same
    have own := (debounced.sound.waiting_iff uri pass.number).mp taken
    exact other (congrArg Pass.uri (debounced.sound.eq_of_number_eq member own rfl))
  refine kept.congr rfl (debounced.sound.start member waits) apart rfl ?_
  rw [checks_concat uri pass.uri { run with schedule := run.schedule.start pass }, if_neg other]
  rfl

/-! ## Calls -/

/-- The calls matter only as far as they want checks to start. -/
theorem of_starts_eq (debounced : Debounced delay uri calls begun now coming run)
    {other : List (τ × Event δ)} (same : starts delay uri other = starts delay uri calls) :
    Debounced delay uri other begun now coming run where
  delay_eq := debounced.delay_eq
  sound := debounced.sound
  counted := debounced.counted
  past := debounced.past
  notPast := debounced.notPast
  own := debounced.own
  waiting := by
    rw [same]
    exact debounced.waiting
  idle := by
    rw [same]
    exact debounced.idle

/-- What was to start has begun, but for one check that is still to begin. -/
theorem begun_or (debounced : Debounced delay uri calls begun now coming run) :
    starts delay uri calls = begun ∨
      ∃ start, now ≤ start ∧ starts delay uri calls = begun ++ [start] := by
  cases pending : run.schedule.pending.find? uri with
  | none => exact Or.inl (debounced.idle pending)
  | some number =>
    rcases debounced.waiting number pending with ⟨start, split, there, _⟩
    exact Or.inr ⟨start, debounced.notPast _ there, split⟩

/-- What has begun is what was to start by now, if nothing is to start at this very moment. -/
theorem begun_eq (debounced : Debounced delay uri calls begun now coming run)
    (untied : now ∉ starts delay uri calls) :
    begun = (starts delay uri calls).filter (· ≤ now) := by
  have early : begun.filter (· ≤ now) = begun :=
    List.filter_eq_self.mpr fun start member => decide_eq_true (debounced.past start member)
  rcases debounced.begun_or with all | ⟨start, notPast, split⟩
  · rw [all, early]
  · have late : ¬start ≤ now := by
      intro early
      exact untied (by simp [split, le_antisymm early notPast])
    simp [split, early, late]

/-- A document is forgotten, or everything ends: nothing waits any more. -/
theorem withdraw (debounced : Debounced delay uri calls begun now coming run)
    (untied : now ∉ starts delay uri calls) {call : Event δ} (withdraws : call.withdraws uri = true)
    {schedule : Schedule} (sound : schedule.Sound) (pending : schedule.pending.find? uri = none)
    (issued : schedule.issued = run.schedule.issued) :
    Debounced delay uri (calls ++ [(now, call)]) begun now coming
      { run with schedule := schedule } where
  delay_eq := debounced.delay_eq
  sound := sound
  counted := debounced.counted
  past := debounced.past
  notPast := debounced.notPast
  own := issued ▸ debounced.own
  waiting := fun number taken => by cases pending.symm.trans taken
  idle := fun _ => by
    rw [debounced.begun_eq untied]
    cases call <;> simp_all [starts_concat, Event.withdraws, Event.overrules, Event.asks]

/-- With a request the countdown of a new pass is to come. -/
theorem own_cons (debounced : Debounced delay uri calls begun now coming run) (start : τ) :
    ∀ time event,
      (time, some event) ∈ (start, some (.expire (run.schedule.issued + 1))) :: coming →
        (∃ number ≤ run.schedule.issued + 1, event = .expire number) ∨
          ∃ number outcome, event = .complete number outcome := by
  intro time event member
  rcases List.mem_cons.mp member with new | old
  · cases new
    exact Or.inl ⟨_, le_refl _, rfl⟩
  · rcases debounced.own time event old with ⟨number, bound, shape⟩ | done
    · exact Or.inl ⟨number, Nat.le_succ_of_le bound, shape⟩
    · exact Or.inr done

/-- A check is asked for.  What waited for the document is taken away, and its countdown, though it
is still to come, has another number. -/
theorem request (debounced : Debounced delay uri calls begun now coming run)
    (untied : now ∉ starts delay uri calls) (notPast : now ≤ now + delay) :
    Debounced delay uri (calls ++ [(now, .schedule uri)]) begun now
      ((now + delay, some (.expire (run.schedule.issued + 1))) :: coming)
      { run with schedule := run.schedule.schedule uri } := by
  have starting : starts delay uri (calls ++ [(now, .schedule uri)]) = begun ++ [now + delay] := by
    rw [debounced.begun_eq untied]
    simp [starts_concat, Event.overrules, Event.asks]
  have pending : (run.schedule.schedule uri).pending.find? uri = some (run.schedule.issued + 1) :=
    Table.find?_insert_self _ _ _
  exact {
    delay_eq := debounced.delay_eq
    sound := debounced.sound.schedule uri
    counted := debounced.counted
    past := debounced.past
    notPast := List.forall_mem_cons.mpr ⟨notPast, debounced.notPast⟩
    own := debounced.own_cons _
    waiting := by
      intro number taken
      obtain rfl : run.schedule.issued + 1 = number := Option.some.inj (pending.symm.trans taken)
      refine ⟨now + delay, starting, List.mem_cons_self, fun time member => ?_⟩
      rcases List.mem_cons.mp member with new | old
      · cases new
        rfl
      · -- Countdowns from before have numbers from before.
        rcases debounced.own _ _ old with ⟨number, bound, shape⟩ | ⟨_, _, shape⟩
        · cases shape
          exact absurd bound (Nat.not_succ_le_self _)
        · cases shape
    idle := fun missing => by cases pending.symm.trans missing }

/-- A check of another document is asked for. -/
theorem requestOther (debounced : Debounced delay uri calls begun now coming run) {other : String}
    (apart : other ≠ uri) (notPast : now ≤ now + delay) :
    Debounced delay uri (calls ++ [(now, .schedule other)]) begun now
      ((now + delay, some (.expire (run.schedule.issued + 1))) :: coming)
      { run with schedule := run.schedule.schedule other } := by
  have same : starts delay uri (calls ++ [(now, .schedule other)]) = starts delay uri calls :=
    starts_concat_of_not_overrules delay calls now (by simpa [Event.overrules] using apart)
  have pending : (run.schedule.schedule other).pending.find? uri = run.schedule.pending.find? uri :=
    Table.find?_insert_of_ne _ (Ne.symm apart) _
  exact {
    delay_eq := debounced.delay_eq
    sound := debounced.sound.schedule other
    counted := debounced.counted
    past := debounced.past
    notPast := List.forall_mem_cons.mpr ⟨notPast, debounced.notPast⟩
    own := debounced.own_cons _
    waiting := by
      intro number taken
      rw [pending] at taken
      rcases debounced.waiting number taken with ⟨start, split, there, only⟩
      refine ⟨start, same.trans split, List.mem_cons_of_mem _ there, fun time member => ?_⟩
      rcases List.mem_cons.mp member with new | present
      · cases new
        have waits := (debounced.sound.waiting_iff uri _).mp taken
        exact absurd (debounced.sound.number_le _ waits) (Nat.not_succ_le_self _)
      · exact only time present
    idle := fun missing => same.trans (debounced.idle (pending ▸ missing)) }

end Debounced

end PassRun

end HomeConfig
