import HomeConfig.Proofs.Session.Move

/-!
# Where a check comes from

A check reads its document once, when its pass begins, and goes on with each reply that it has
waited for.  Between the two anything can happen, the document itself included.  `Checked` traces a
check back to the tick at which it began: it names the pass, the document, the text that was read
there, and the ticks since then, and says how far the replies among these have brought the check.

Every check that a session keeps is traced in this way (`traced_after`), so a result that comes in
at last can be compared with the text that it is about.
-/

namespace HomeConfig

namespace Session

variable {session start : Session} {ticks since : List Tick} {number : Nat} {uri : String}

/-! ## The schedule of a session -/

/-- What a tick does to the schedule is a run of the schedule. -/
theorem Move.schedule {tick : Tick} {published : Lists} {desk : Desk}
    (move : Move session tick published desk) :
    ∃ events : List (Schedule.Event (List Diagnostic)),
      desk.schedule = session.schedule.after events := by
  have started {state : Schedule} {number : Nat} {pass : Pass}
      (waiting : state.find? number .waiting = some pass) :
      state.start pass = state.next (.expire number : Schedule.Event (List Diagnostic)) := by
    simp only [Schedule.next, Schedule.step, Schedule.expire?, waiting, Option.map_some]
  have follows (desk : Desk) (number : Nat) (progress : Progress (List Diagnostic)) :
      ∃ events : List (Schedule.Event (List Diagnostic)),
        (desk.follow number progress).2.schedule = desk.schedule.after events := by
    cases progress with
    | finished found => exact ⟨[.complete number (.found found)], rfl⟩
    | listing _ _ _ _ => exact ⟨[], rfl⟩
    | reading _ _ _ => exact ⟨[], rfl⟩
  cases move with
  | @opened uri _ _ _ => exact ⟨[.schedule uri], rfl⟩
  | @changed uri _ _ _ => exact ⟨[.schedule uri], rfl⟩
  | @closed uri _ _ => exact ⟨[.cancel uri], rfl⟩
  | @gone number pass _ waiting _ =>
    refine ⟨[.expire number, .complete number .gone], ?_⟩
    rw [started waiting]
    rfl
  | @begun number pass _ progress _ waiting _ _ =>
    rcases follows { session.desk with schedule := session.schedule.start pass } number progress with
        ⟨events, shape⟩
    refine ⟨.expire number :: events, ?_⟩
    rw [shape, started waiting]
    rfl
  | resumed _ _ _ => exact follows session.desk _ _
  | stopped _ => exact ⟨[.shutDown], rfl⟩
  | idle _ => exact ⟨[], rfl⟩

theorem schedule_after (session : Session) (ticks : List Tick) :
    ∃ events : List (Schedule.Event (List Diagnostic)),
      (session.after ticks).schedule = session.schedule.after events := by
  induction ticks generalizing session with
  | nil => exact ⟨[], rfl⟩
  | cons tick later inductionHypothesis =>
    rcases (session.move_next tick).schedule with ⟨now, first⟩
    rcases inductionHypothesis (session.next tick) with ⟨then_, rest⟩
    refine ⟨now ++ then_, ?_⟩
    rw [after_cons, rest, show (session.next tick).schedule = _ from first,
      Schedule.after_append]

/-- The schedule of a session that began without documents is sound. -/
theorem sound_after (sharedSecrets : Option Path) (store : Store) (ticks : List Tick) :
    ((new sharedSecrets store).after ticks).schedule.Sound := by
  rcases (new sharedSecrets store).schedule_after ticks with ⟨events, shape⟩
  rw [shape]
  exact Schedule.sound_empty.after events

/-- A pass that is the latest one of its document at the end, and was there at the start, has been
the latest one of the document all the time. -/
theorem latest_of_latest_after (later : List Tick)
    (bound : number ≤ session.schedule.issued)
    (latest : (session.after later).schedule.latest.find? uri = some number) :
    session.schedule.latest.find? uri = some number := by
  rcases session.schedule_after later with ⟨events, shape⟩
  rw [shape] at latest
  exact Schedule.latest_of_latest_after events bound latest

/-! ## Checks under way -/

/-- What a check has found, once it has ended. -/
def result? : Progress (List Diagnostic) → Option (List Diagnostic)
  | .finished found => some found
  | _ => none

theorem eq_finished_of_result? {progress : Progress (List Diagnostic)} {found : List Diagnostic}
    (ended : result? progress = some found) : progress = .finished found := by
  cases progress with
  | finished result => exact congrArg _ (Option.some.inj ended)
  | listing _ _ _ _ => cases ended
  | reading _ _ _ => cases ended

/-- How far a check has come after a tick: a reply to it brings it on. -/
def heed (number : Nat) (progress : Progress (List Diagnostic)) (session : Session) (tick : Tick) :
    Progress (List Diagnostic) :=
  match tick.event with
  | .replied (.pass other) reply =>
    if other = number then (progress.resume tick.now reply session.store).1 else progress
  | _ => progress

/-- How far a check has come after some ticks. -/
def pursue (number : Nat) (progress : Progress (List Diagnostic)) :
    Session → List Tick → Progress (List Diagnostic)
  | _, [] => progress
  | session, tick :: later =>
    pursue number (heed number progress session tick) (session.next tick) later

theorem pursue_concat (number : Nat) (progress : Progress (List Diagnostic)) (session : Session)
    (later : List Tick) (tick : Tick) :
    pursue number progress session (later ++ [tick]) =
      heed number (pursue number progress session later) (session.after later) tick := by
  induction later generalizing session progress with
  | nil => rfl
  | cons first rest inductionHypothesis => exact inductionHypothesis _ _

@[simp] theorem heed_finished (number : Nat) (found : List Diagnostic) (session : Session)
    (tick : Tick) : heed number (.finished found) session tick = .finished found := by
  unfold heed
  split
  · split <;> rfl
  · rfl

theorem heed_replied {progress : Progress (List Diagnostic)} {session : Session} {tick : Tick}
    {reply : Reply} (happens : tick.event = .replied (.pass number) reply) :
    heed number progress session tick = (progress.resume tick.now reply session.store).1 := by
  rw [heed, happens]
  exact if_pos rfl

/-- A check goes on only with replies to its own pass. -/
theorem heed_of_ne (progress : Progress (List Diagnostic)) (session : Session) (tick : Tick)
    (different : ∀ reply, tick.event ≠ .replied (.pass number) reply) :
    heed number progress session tick = progress := by
  unfold heed
  split
  · rename_i other reply happens
    have distinct : other ≠ number := fun same => different reply (same ▸ happens)
    rw [if_neg distinct]
  · rfl

/-- The pass with a number begins at a tick, for a document that has the given text by then, or
that is not found. -/
structure Began (start : Session) (before : List Tick) (tick : Tick) (number : Nat) (uri : String)
    (read : Option Text) : Prop where
  happens : tick.event = .expired number
  waiting : (start.after before).schedule.find? number .waiting = some ⟨number, uri, .waiting⟩
  reads : (start.after before).text? uri = read

theorem Began.of_waiting {before : List Tick} {tick : Tick} {pass : Pass} {read : Option Text}
    (happens : tick.event = .expired number)
    (waiting : (start.after before).schedule.find? number .waiting = some pass)
    (reads : (start.after before).text? pass.uri = read) :
    Began start before tick number pass.uri read := by
  rcases Schedule.find?_eq_some waiting with ⟨_, numbered, isWaiting⟩
  rcases pass with ⟨given, uri, phase⟩
  subst numbered isWaiting
  exact ⟨happens, waiting, reads⟩

/-- In a run, a pass has begun and found its document, and `validate`, run on the text that it read
then, has come as far as given in the ticks since. -/
def Checked (start : Session) (ticks : List Tick) (number : Nat) (uri : String) (text : Text)
    (since : List Tick) (progress : Progress (List Diagnostic)) : Prop :=
  ∃ before tick, ticks = before ++ tick :: since ∧
    Began start before tick number uri (some text) ∧
    progress = pursue number
      ((validate (start.after before).store.isConnected ⟨text, some uri, tick.tree⟩).advance
        tick.now (start.after before).store).1
      ((start.after before).next tick) since

/-- In a run, a pass has begun and has not found its document. -/
def Missed (start : Session) (ticks : List Tick) (number : Nat) (uri : String)
    (since : List Tick) : Prop :=
  ∃ before tick, ticks = before ++ tick :: since ∧ Began start before tick number uri none

theorem Checked.concat {text : Text} {progress : Progress (List Diagnostic)}
    (checked : Checked start ticks number uri text since progress) (tick : Tick) :
    Checked start (ticks ++ [tick]) number uri text (since ++ [tick])
      (heed number progress (start.after ticks) tick) := by
  rcases checked with ⟨before, first, rfl, began, rfl⟩
  refine ⟨before, first, by simp, began, ?_⟩
  rw [pursue_concat, after_append, after_cons]

theorem Checked.concat_finished {text : Text} {found : List Diagnostic}
    (checked : Checked start ticks number uri text since (.finished found)) (tick : Tick) :
    Checked start (ticks ++ [tick]) number uri text (since ++ [tick]) (.finished found) := by
  have later := checked.concat tick
  rwa [heed_finished] at later

theorem Missed.concat (missed : Missed start ticks number uri since) (tick : Tick) :
    Missed start (ticks ++ [tick]) number uri (since ++ [tick]) := by
  rcases missed with ⟨before, first, rfl, began⟩
  exact ⟨before, first, by simp, began⟩

/-- A check that has just begun. -/
theorem Began.checked {before : List Tick} {tick : Tick} {text : Text}
    (began : Began start before tick number uri (some text)) :
    Checked start (before ++ [tick]) number uri text []
      (((start.after before).check tick.tree uri text).advance tick.now
        (start.after before).store).1 :=
  ⟨before, tick, rfl, began, rfl⟩

theorem Began.missed {before : List Tick} {tick : Tick}
    (began : Began start before tick number uri none) :
    Missed start (before ++ [tick]) number uri [] :=
  ⟨before, tick, rfl, began⟩

/-! ## Every check is traced -/

/-- Every check that waits on a desk belongs to a running pass and is traced to its beginning. -/
def Traced (start : Session) (ticks : List Tick) (desk : Desk) : Prop :=
  ∀ number progress, desk.checks.find? number = some progress →
    ∃ uri text since, (⟨number, uri, .running⟩ : Pass) ∈ desk.schedule.passes ∧
      Checked start ticks number uri text since progress

/-- A pass that ends takes no other pass away. -/
theorem mem_complete {state : Schedule} {pass : Pass} (member : pass ∈ state.passes)
    (different : pass.number ≠ number) (outcome : CheckOutcome (List Diagnostic)) :
    pass ∈ (state.next (.complete number outcome)).passes := by
  have change := Schedule.change_next state (.complete number outcome)
  generalize state.next (.complete number outcome) = result at change
  cases change with
  | finished _ _ => exact Schedule.Sound.mem_ended.mpr ⟨member, different⟩
  | completedLate _ _ => exact member

/-- To follow a check leaves the passes with other numbers alone. -/
theorem Desk.mem_follow {desk : Desk} {pass : Pass} (member : pass ∈ desk.schedule.passes)
    (different : pass.number ≠ number) (progress : Progress (List Diagnostic)) :
    pass ∈ (desk.follow number progress).2.schedule.passes := by
  cases progress with
  | finished found => exact mem_complete member different _
  | listing _ _ _ _ => exact member
  | reading _ _ _ => exact member

/-- What is kept of a check that is followed: nothing once it has ended, else how far it has come. -/
theorem Desk.find?_follow {desk : Desk} {other : Nat} {progress kept : Progress (List Diagnostic)}
    (waits : (desk.follow number progress).2.checks.find? other = some kept) :
    (other = number ∧ kept = progress ∧ (desk.follow number progress).2.schedule = desk.schedule) ∨
      (other ≠ number ∧ desk.checks.find? other = some kept) := by
  have inserted (waits : (desk.checks.insert number progress).find? other = some kept) :
      (other = number ∧ kept = progress) ∨
        (other ≠ number ∧ desk.checks.find? other = some kept) := by
    rw [Table.find?_insert] at waits
    split at waits
    · exact Or.inl ⟨‹_›, (Option.some.inj waits).symm⟩
    · exact Or.inr ⟨‹_›, waits⟩
  cases progress with
  | finished found =>
    have kept := (Table.find?_erase _ _ _).symm.trans waits
    split at kept
    · cases kept
    · exact Or.inr ⟨‹_›, kept⟩
  | listing _ _ _ _ => exact (inserted waits).imp_left fun ⟨same, equal⟩ => ⟨same, equal, rfl⟩
  | reading _ _ _ => exact (inserted waits).imp_left fun ⟨same, equal⟩ => ⟨same, equal, rfl⟩

/-- To follow a traced check keeps the others traced. -/
theorem Traced.follow {desk : Desk} {text : Text} {progress : Progress (List Diagnostic)}
    (others : ∀ other kept, other ≠ number → desk.checks.find? other = some kept →
      ∃ uri text since, (⟨other, uri, .running⟩ : Pass) ∈ desk.schedule.passes ∧
        Checked start ticks other uri text since kept)
    (running : (⟨number, uri, .running⟩ : Pass) ∈ desk.schedule.passes)
    (checked : Checked start ticks number uri text since progress) :
    Traced start ticks (desk.follow number progress).2 := by
  intro other kept waits
  rcases Desk.find?_follow waits with ⟨rfl, rfl, same⟩ | ⟨different, waits⟩
  · exact ⟨uri, text, since, same ▸ running, checked⟩
  · rcases others other kept different waits with ⟨uri, text, since, member, traced⟩
    exact ⟨uri, text, since, desk.mem_follow member different progress, traced⟩

/-- A check that waits at a tick and is not brought on by it stays traced. -/
theorem Traced.wait {desk : Desk} (traced : Traced start ticks desk) {tick : Tick} {other : Nat}
    {kept : Progress (List Diagnostic)} (waits : desk.checks.find? other = some kept)
    (silent : ∀ reply, tick.event ≠ .replied (.pass other) reply) :
    ∃ uri text since, (⟨other, uri, .running⟩ : Pass) ∈ desk.schedule.passes ∧
      Checked start (ticks ++ [tick]) other uri text since kept := by
  rcases traced other kept waits with ⟨uri, text, since, member, checked⟩
  have later := checked.concat tick
  rw [heed_of_ne kept _ tick silent] at later
  exact ⟨uri, text, since ++ [tick], member, later⟩

/-- A tick that brings no check on, and takes no running pass away. -/
theorem Traced.keep {before after : Desk} (traced : Traced start ticks before) {tick : Tick}
    (silent : ∀ number reply, tick.event ≠ .replied (.pass number) reply)
    (checks : ∀ number kept, after.checks.find? number = some kept →
      before.checks.find? number = some kept ∧
        ∀ uri, (⟨number, uri, .running⟩ : Pass) ∈ before.schedule.passes →
          (⟨number, uri, .running⟩ : Pass) ∈ after.schedule.passes) :
    Traced start (ticks ++ [tick]) after := by
  intro number kept waits
  rcases checks number kept waits with ⟨old, stays⟩
  rcases traced.wait old (silent number) with ⟨uri, text, since, member, checked⟩
  exact ⟨uri, text, since, stays uri member, checked⟩

theorem Traced.move (traced : Traced start ticks (start.after ticks).desk)
    (sound : (start.after ticks).schedule.Sound) {tick : Tick} {published : Lists} {desk : Desk}
    (move : Move (start.after ticks) tick published desk) :
    Traced start (ticks ++ [tick]) desk := by
  cases move with
  | @opened uri _ happens _ | @changed uri _ happens _ =>
    refine traced.keep (by rw [happens]; nofun) fun number kept waits => ⟨waits, fun _ old => ?_⟩
    exact (sound.mem_schedule uri).mpr (Or.inl ⟨old, fun both => by cases both.2⟩)
  | @closed uri happens _ =>
    refine traced.keep (by rw [happens]; nofun) fun number kept waits => ⟨waits, fun _ old => ?_⟩
    exact (sound.mem_cancel uri).mpr ⟨old, fun both => by cases both.2⟩
  | @gone ended pass happens waiting missing =>
    rcases Schedule.find?_eq_some waiting with ⟨present, _, isWaiting⟩
    apply traced.keep (by rw [happens]; nofun)
    intro number kept waits
    rw [Table.find?_erase] at waits
    split at waits
    · cases waits
    · refine ⟨waits, fun other old => mem_complete ?_ ‹_› _⟩
      refine (sound.mem_start present).mpr (Or.inl ⟨old, fun same => ?_⟩)
      have equal := sound.eq_of_number_eq old present same
      rw [← equal] at isWaiting
      cases isWaiting
  | @begun number pass text progress happens waiting present reaches =>
    rcases Schedule.find?_eq_some waiting with ⟨member, numbered, isWaiting⟩
    have checked := (Began.of_waiting happens waiting present).checked
    rw [reaches] at checked
    refine Traced.follow (fun other kept different waits => ?_) ?_ checked
    · have silent : ∀ reply, tick.event ≠ .replied (.pass other) reply := by rw [happens]; nofun
      rcases traced.wait waits silent with ⟨uri, text, since, old, checked⟩
      refine ⟨uri, text, since, (sound.mem_start member).mpr (Or.inl ⟨old, ?_⟩), checked⟩
      exact numbered ▸ different
    · refine (sound.mem_start member).mpr (Or.inr ?_)
      rw [← numbered]
  | @resumed number reply before progress happens waits reaches =>
    rcases traced number before waits with ⟨uri, text, since, running, checked⟩
    have later := checked.concat tick
    rw [heed_replied happens, reaches] at later
    refine Traced.follow (fun other kept different waits => ?_) running later
    apply traced.wait waits
    intro reply same
    apply different
    rw [happens] at same
    injection same with same
    injection same with same
    exact same.symm
  | stopped happens =>
    intro number kept waits
    simp at waits
  | idle ignored =>
    intro number kept waits
    apply traced.wait waits
    intro reply happens
    rw [happens] at ignored
    have missing : (start.after ticks).desk.checks.find? number = none := ignored
    rw [missing] at waits
    cases waits

/-- In every run that began without documents, every check that waits is traced. -/
theorem traced_after (sharedSecrets : Option Path) (store : Store) (ticks : List Tick) :
    Traced (new sharedSecrets store) ticks ((new sharedSecrets store).after ticks).desk := by
  induction ticks using List.reverseRecOn with
  | nil =>
    intro number kept waits
    cases waits
  | append_singleton ticks tick inductionHypothesis =>
    have sound := sound_after sharedSecrets store ticks
    have next := inductionHypothesis.move sound (move_next _ tick)
    rwa [after_append]

end Session

end HomeConfig
