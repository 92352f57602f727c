import HomeConfig.Proofs.Rehearsal.Debounce

/-!
# Checks begin in time

A scene in which all checks of a document have begun in time (`OnTime`) stays so whatever is called
and however long is waited.  While time is waited for, events happen one after the other, and each of
them keeps the scene in time (`OnTime.happen`).  There are no more of them than is allowed for: a
countdown that runs out may begin a check, the end of which is one event more, and nothing else
comes in (`effort`).  So the wait goes on to its own end (`OnTime.pass`), and to no other.
-/

namespace HomeConfig

namespace PassRun

open Schedule

variable {τ δ : Type}

/-! ## How much is to happen -/

/-- Whether an event is the end of a countdown. -/
def isCountdown : Option (Event δ) → Bool
  | some (.expire _) => true
  | _ => false

/-- How many events there may be because of what is to come: a countdown that runs out may begin a
check, which ends. -/
def effort (coming : Coming τ δ) : Nat :=
  coming.length + coming.countP fun event => isCountdown event.2

theorem effort_perm {first second : Coming τ δ} (same : first.Perm second) :
    effort first = effort second :=
  congrArg₂ _ same.length_eq (same.countP_eq _)

theorem effort_le_of_sublist {first second : Coming τ δ} (less : first.Sublist second) :
    effort first ≤ effort second :=
  Nat.add_le_add less.length_le less.countP_le

theorem effort_lt_cons (event : τ × Option (Event δ)) (coming : Coming τ δ) :
    effort coming < effort (event :: coming) :=
  Nat.add_lt_add_of_lt_of_le (Nat.lt_succ_self _) (List.sublist_cons_self event coming).countP_le

theorem effort_le (coming : Coming τ δ) : effort coming ≤ 2 * coming.length := by
  rw [effort, Nat.two_mul]
  exact Nat.add_le_add_left List.countP_le_length _

/-! ## When checks begin -/

/-- The times at which checks of a document have begun between one scene and the next. -/
def begins (uri : String) (before after : Scene τ δ) : List τ :=
  List.replicate (checks uri after.state - checks uri before.state) after.timeline.now

theorem begins_eq {uri : String} {before after : Scene τ δ} {count : Nat}
    (grown : checks uri after.state = checks uri before.state + count) :
    begins uri before after = List.replicate count after.timeline.now := by
  rw [begins, grown, Nat.add_sub_cancel_left]

variable [AddCommMonoid τ] [LinearOrder τ]

/-- The times at which checks of a document begin while events happen. -/
def beginnings (uri : String) : (bound : Nat) → Scene τ δ → List τ
  | 0, _ => []
  | bound + 1, scene =>
    match scene.timeline.next? (isLive scene.state) with
    | some (some event, timeline) =>
      let before : Scene τ δ := { scene with timeline := timeline }
      let after := happen event before
      begins uri before after ++ beginnings uri bound after
    | _ => []

/-- The end of the time that is waited for ends the wait. -/
theorem playUntil_waited {scene : Scene τ δ} {later : Timeline τ (Event δ)}
    (found : scene.timeline.next? (isLive scene.state) = some (none, later)) (uri : String)
    (bound : Nat) :
    Timeline.playUntil ⟨isLive, happen⟩ (fun _ => false) (bound + 1) scene =
        { scene with timeline := later } ∧
      beginnings uri (bound + 1) scene = [] := by
  simp [Timeline.playUntil, beginnings, found]

/-- Another event happens, and the wait goes on. -/
theorem playUntil_happened {scene : Scene τ δ} {event : Event δ} {later : Timeline τ (Event δ)}
    (found : scene.timeline.next? (isLive scene.state) = some (some event, later)) (uri : String)
    (bound : Nat) :
    let before : Scene τ δ := { scene with timeline := later }
    let after := happen event before
    Timeline.playUntil ⟨isLive, happen⟩ (fun _ => false) (bound + 1) scene =
        Timeline.playUntil ⟨isLive, happen⟩ (fun _ => false) bound after ∧
      beginnings uri (bound + 1) scene = begins uri before after ++ beginnings uri bound after := by
  simp [Timeline.playUntil, beginnings, found]

/-! ## What is kept -/

/-- A scene in which all checks of a document have begun in time. -/
structure OnTime (delay : τ) (uri : String) (calls : List (τ × Event δ)) (begun : List τ)
    (scene : Scene τ δ) : Prop where
  proper : scene.timeline.Proper
  debounced : Debounced delay uri calls begun scene.timeline.now scene.timeline.coming scene.state

/-- A check is recorded; then it ends at once or its end comes in. -/
theorem check_spec (scene : Scene τ δ) (number : Nat) (uri : String) :
    let recorded : Scene τ δ := { scene with
      state := { scene.state with signs := scene.state.signs ++ [.checked uri] } }
    ∃ outcome, check scene number uri = finish recorded number outcome ∨
      ∃ duration, check scene number uri = { recorded with
        timeline := scene.timeline.enter duration (some (.complete number outcome)) } := by
  refine ⟨((scene.state.plans.find? uri).getD scene.state.otherwise).outcome, ?_⟩
  cases planned : ((scene.state.plans.find? uri).getD scene.state.otherwise).duration with
  | none => exact Or.inl (by simp only [check, planned])
  | some duration => exact Or.inr ⟨duration, by simp only [check, planned]⟩

/-! ## What an event does to the timeline -/

/-- A countdown that runs out lets nothing in but the end of a check. -/
theorem happen_expire_timeline (scene : Scene τ δ) (number : Nat) :
    (happen (.expire number) scene).timeline = scene.timeline ∨
      ∃ other duration outcome, (happen (.expire number) scene).timeline =
        scene.timeline.enter duration (some (.complete other outcome)) := by
  cases waits : scene.state.schedule.find? number .waiting with
  | none => exact Or.inl (congrArg _ (happen_expire_of_none waits))
  | some pass =>
    rw [happen_expire waits]
    rcases check_spec { scene with state := { scene.state with
      schedule := scene.state.schedule.start pass } } pass.number pass.uri with
      ⟨outcome, ended | ⟨duration, runs⟩⟩
    · rw [ended]
      exact Or.inl (finish_spec _ _ _ pass.uri).1
    · rw [runs]
      exact Or.inr ⟨pass.number, duration, outcome, rfl⟩

theorem happen_complete_timeline (scene : Scene τ δ) (number : Nat) (outcome : CheckOutcome δ) :
    (happen (.complete number outcome) scene).timeline = scene.timeline := by
  rw [happen_complete]
  exact (finish_spec scene number outcome "").1

/-- An event happens in no time, less is to come after it, and the ends of times stay. -/
theorem Debounced.happen {delay : τ} {uri : String} {calls : List (τ × Event δ)}
    {begun : List τ} {scene : Scene τ δ} {event : Event δ}
    (debounced : Debounced delay uri calls begun scene.timeline.now
      ((scene.timeline.now, some event) :: scene.timeline.coming) scene.state) :
    (happen event scene).timeline.now = scene.timeline.now ∧
      effort (happen event scene).timeline.coming <
        effort ((scene.timeline.now, some event) :: scene.timeline.coming) ∧
      (Timeline.ends (happen event scene).timeline.coming).Perm
        (Timeline.ends scene.timeline.coming) := by
  rcases debounced.own _ event List.mem_cons_self with ⟨number, _, rfl⟩ | ⟨number, outcome, rfl⟩
  · rcases happen_expire_timeline scene number with same | ⟨other, duration, outcome, enters⟩
    · rw [same]
      exact ⟨rfl, effort_lt_cons _ _, List.Perm.refl _⟩
    · have coming := Timeline.coming_enter scene.timeline duration
        (some (Event.complete other outcome))
      rw [enters]
      refine ⟨Timeline.now_enter _ _ _, ?_, coming.filter _⟩
      rw [effort_perm coming]
      simp [effort, isCountdown]
  · rw [happen_complete_timeline]
    exact ⟨rfl, effort_lt_cons _ _, List.Perm.refl _⟩

namespace OnTime

variable {delay : τ} {uri : String} {calls : List (τ × Event δ)} {begun : List τ}
  {scene : Scene τ δ}

theorem finish (onTime : OnTime delay uri calls begun scene) (number : Nat) (outcome : CheckOutcome δ) :
    OnTime delay uri calls begun (finish scene number outcome) := by
  rcases finish_spec scene number outcome uri with ⟨timeline, delayed, schedule, same⟩
  refine ⟨timeline ▸ onTime.proper, ?_⟩
  rw [timeline]
  refine onTime.debounced.congr delayed ?_ ?_ ?_ same
  · rw [schedule]
    exact onTime.debounced.sound.complete number outcome
  · rw [schedule, complete_pending]
  · rw [schedule, complete_issued]

theorem cancel (onTime : OnTime delay uri calls begun scene) (other : String)
    (untied : other = uri → scene.timeline.now ∉ starts delay uri calls) :
    OnTime delay uri (calls ++ [(scene.timeline.now, .cancel other)]) begun
      (PassRun.happen (.cancel other) scene) := by
  have sound := onTime.debounced.sound.cancel other
  refine ⟨onTime.proper, ?_⟩
  by_cases own : other = uri
  · cases own
    exact onTime.debounced.withdraw (untied rfl) (by simp [Event.withdraws]) sound
      (Table.find?_erase_self _ _) rfl
  · have apart : (Event.cancel other : Event δ).overrules uri = false := by
      simpa [Event.overrules] using own
    have kept : Debounced delay uri calls begun scene.timeline.now scene.timeline.coming
        { scene.state with schedule := scene.state.schedule.cancel other } :=
      onTime.debounced.congr rfl sound (Table.find?_erase_of_ne _ (Ne.symm own)) rfl rfl
    exact kept.of_starts_eq (starts_concat_of_not_overrules delay calls _ apart)

theorem shutDown (onTime : OnTime delay uri calls begun scene)
    (untied : scene.timeline.now ∉ starts delay uri calls) :
    OnTime delay uri (calls ++ [(scene.timeline.now, .shutDown)]) begun
      (PassRun.happen .shutDown scene) :=
  ⟨onTime.proper, onTime.debounced.withdraw untied rfl (Sound.shutDown _) rfl rfl⟩

variable [IsOrderedCancelAddMonoid τ]

/-- A check begins that has been recorded. -/
theorem check {number : Nat} {other : String}
    (onTime : OnTime delay uri calls begun { scene with
      state := { scene.state with signs := scene.state.signs ++ [.checked other] } }) :
    OnTime delay uri calls begun (check scene number other) := by
  rcases check_spec scene number other with ⟨outcome, ended | ⟨duration, runs⟩⟩
  · rw [ended]
    exact onTime.finish number outcome
  · rw [runs]
    refine ⟨onTime.proper.enter _ _, ?_⟩
    rw [Timeline.now_enter]
    refine (onTime.debounced.add (Timeline.le_arrival _ duration) ?_).perm
      (Timeline.coming_enter _ _ (some (Event.complete number outcome))).symm
    intro own same
    exact ⟨number, outcome, (Option.some.inj same).symm⟩

/-- The next event comes at its time. -/
theorem next (onTime : OnTime delay uri calls begun scene) {event : Option (Event δ)}
    {later : Timeline τ (Event δ)}
    (found : scene.timeline.next? (isLive scene.state) = some (event, later)) :
    later.Proper ∧
      Debounced delay uri calls begun later.now ((later.now, event) :: later.coming) scene.state := by
  rcases Timeline.next?_eq_some onTime.proper found with ⟨proper, past, void, same, isVoid⟩
  refine ⟨proper, onTime.debounced.later _ past ?_ ?_ ?_⟩
  · exact List.forall_mem_cons.mpr ⟨le_refl _, fun other member => proper.now_le member⟩
  · intro other member
    refine same.mem_iff.mpr ?_
    rcases List.mem_cons.mp member with rfl | rest
    · exact List.mem_cons_self
    · exact List.mem_cons_of_mem _ (List.mem_append_right _ rest)
  · intro start number pending member
    rcases List.mem_cons.mp (same.mem_iff.mp member) with first | rest
    · exact first ▸ List.mem_cons_self
    · rcases List.mem_append.mp rest with struck | kept
      · exact absurd (isVoid _ struck) (onTime.debounced.not_isVoid pending)
      · exact List.mem_cons_of_mem _ kept

theorem effort_next (onTime : OnTime delay uri calls begun scene) {event : Option (Event δ)}
    {later : Timeline τ (Event δ)}
    (found : scene.timeline.next? (isLive scene.state) = some (event, later)) :
    effort ((later.now, event) :: later.coming) ≤ effort scene.timeline.coming := by
  rcases Timeline.next?_eq_some onTime.proper found with ⟨_, _, void, same, _⟩
  rw [effort_perm same]
  exact effort_le_of_sublist ((List.sublist_append_right void later.coming).cons_cons _)

theorem waited (onTime : OnTime delay uri calls begun scene) {later : Timeline τ (Event δ)}
    (found : scene.timeline.next? (isLive scene.state) = some (none, later)) :
    OnTime delay uri calls begun { scene with timeline := later } := by
  rcases onTime.next found with ⟨proper, debounced⟩
  exact ⟨proper, debounced.skip fun _ _ => nofun⟩

/-- A countdown that has come out runs out, or a check ends. -/
theorem happen {event : Event δ} (proper : scene.timeline.Proper)
    (debounced : Debounced delay uri calls begun scene.timeline.now
      ((scene.timeline.now, some event) :: scene.timeline.coming) scene.state) :
    OnTime delay uri calls (begun ++ begins uri scene (happen event scene)) (happen event scene) := by
  have quiet (result : OnTime delay uri calls begun (PassRun.happen event scene)) :
      begun ++ begins uri scene (PassRun.happen event scene) = begun := by
    have same : checks uri (PassRun.happen event scene).state = checks uri scene.state + 0 :=
      result.debounced.counted.trans debounced.counted.symm
    rw [begins_eq same, List.replicate_zero, List.append_nil]
  rcases debounced.own _ event List.mem_cons_self with ⟨number, _, rfl⟩ | ⟨number, outcome, rfl⟩
  · cases waits : scene.state.schedule.find? number .waiting with
    | none =>
      have result : OnTime delay uri calls begun (PassRun.happen (.expire number) scene) := by
        rw [happen_expire_of_none waits]
        refine ⟨proper, debounced.skip fun other pending same => ?_⟩
        obtain rfl : number = other := by
          cases same
          rfl
        cases waits.symm.trans (debounced.find?_of_pending pending)
      rwa [quiet result]
    | some pass =>
      rcases find?_eq_some waits with ⟨member, rfl, isWaiting⟩
      by_cases own : pass.uri = uri
      · have result : OnTime delay uri calls (begun ++ [scene.timeline.now])
            (PassRun.happen (.expire pass.number) scene) := by
          rw [happen_expire waits]
          exact OnTime.check ⟨proper, debounced.expireOwn member isWaiting own⟩
        have grown : checks uri (PassRun.happen (.expire pass.number) scene).state =
            checks uri scene.state + 1 := by
          rw [result.debounced.counted, debounced.counted, List.length_append]
          rfl
        rwa [begins_eq grown, debounced.happen.1]
      · have result : OnTime delay uri calls begun
            (PassRun.happen (.expire pass.number) scene) := by
          rw [happen_expire waits]
          exact OnTime.check ⟨proper, debounced.expireOther member isWaiting own⟩
        rwa [quiet result]
  · have result : OnTime delay uri calls begun
        (PassRun.happen (.complete number outcome) scene) := by
      rw [happen_complete]
      exact OnTime.finish ⟨proper, debounced.skip fun _ _ => nofun⟩ number outcome
    rwa [quiet result]

/-! ## Time passes -/

/-- Events happen until the one time ends that is waited for. -/
theorem playUntil {bound : Nat} {target : τ} (onTime : OnTime delay uri calls begun scene)
    (waits : Timeline.ends scene.timeline.coming = [(target, none)])
    (enough : effort scene.timeline.coming ≤ bound) :
    let final := Timeline.playUntil ⟨isLive, PassRun.happen⟩ (fun _ => false) bound scene
    OnTime delay uri calls (begun ++ beginnings uri bound scene) final ∧
      final.timeline.now = target ∧
      Timeline.ends final.timeline.coming = [] := by
  -- The end that is waited for is to come all the time, so the bound is never used up before it.
  induction bound generalizing scene begun with
  | zero =>
    have nothing := Nat.le_zero.mp ((Nat.le_add_right _ _).trans enough)
    rw [List.length_eq_zero_iff.mp nothing] at waits
    cases waits
  | succ bound inductionHypothesis =>
    cases found : scene.timeline.next? (isLive scene.state) with
    | none =>
      have isEnd : (target, none) ∈ Timeline.ends scene.timeline.coming :=
        waits ▸ List.mem_singleton_self _
      -- The end of a time never becomes void, so there is a next event.
      have isVoid := Timeline.isVoid_of_next?_eq_none onTime.proper found _
        (List.mem_filter.mp isEnd).1
      cases isVoid
    | some next =>
      rcases next with ⟨event, later⟩
      have same := Timeline.ends_of_next?_eq_some onTime.proper found
      rw [waits] at same
      cases event with
      | none =>
        have ended : (later.now, none) :: Timeline.ends later.coming = [(target, none)] :=
          same.symm.eq_singleton
        rcases playUntil_waited found uri bound with ⟨result, none⟩
        rw [result, none, List.append_nil]
        exact ⟨onTime.waited found, congrArg Prod.fst (List.cons.inj ended).1,
          (List.cons.inj ended).2⟩
      | some event =>
        let before : Scene τ δ := { scene with timeline := later }
        have debounced : Debounced delay uri calls begun before.timeline.now
            ((before.timeline.now, some event) :: before.timeline.coming) before.state :=
          (onTime.next found).2
        have cost : effort ((before.timeline.now, some event) :: before.timeline.coming) ≤
            effort scene.timeline.coming :=
          onTime.effort_next found
        rcases debounced.happen with ⟨_, less, kept⟩
        rcases playUntil_happened found uri bound with ⟨result, more⟩
        rw [result, more, ← List.append_assoc]
        exact inductionHypothesis (OnTime.happen (onTime.next found).1 debounced)
          (kept.trans same.symm).eq_singleton
          (Nat.le_of_lt_succ (less.trans_le (cost.trans enough)))

theorem pass (onTime : OnTime delay uri calls begun scene)
    (free : Timeline.ends scene.timeline.coming = []) (time : τ) :
    OnTime delay uri calls (begun ++ beginnings uri (2 * scene.timeline.size + 1)
        { scene with timeline := scene.timeline.enter time none }) (pass time scene) ∧
      (PassRun.pass time scene).timeline.now = Timeline.arrival scene.timeline.now time ∧
      Timeline.ends (PassRun.pass time scene).timeline.coming = [] := by
  let waiting : Scene τ δ := { scene with timeline := scene.timeline.enter time none }
  have coming := Timeline.coming_enter scene.timeline time none
  have started : OnTime delay uri calls begun waiting := by
    refine ⟨onTime.proper.enter time none, ?_⟩
    have added : Debounced delay uri calls begun scene.timeline.now
        ((Timeline.arrival scene.timeline.now time, none) :: scene.timeline.coming) scene.state :=
      onTime.debounced.add (Timeline.le_arrival _ time) nofun
    exact (Timeline.now_enter scene.timeline time none).symm ▸ added.perm coming.symm
  refine started.playUntil ?_ ?_
  · have waits : (Timeline.ends waiting.timeline.coming).Perm
        (Timeline.ends
          ((Timeline.arrival scene.timeline.now time, none) :: scene.timeline.coming)) :=
      coming.filter _
    rw [Timeline.ends_cons_none, free] at waits
    exact waits.eq_singleton
  · have single : effort ((Timeline.arrival scene.timeline.now time, none) ::
        scene.timeline.coming) = effort scene.timeline.coming + 1 := by
      simp [effort, isCountdown, Nat.add_right_comm]
    have whole := effort_le scene.timeline.coming
    rw [Timeline.length_coming] at whole
    rw [effort_perm coming, single]
    exact Nat.succ_le_succ whole

/-! ## Requests -/

theorem schedule (onTime : OnTime delay uri calls begun scene) (positive : 0 < delay) (other : String)
    (untied : other = uri → scene.timeline.now ∉ starts delay uri calls) :
    OnTime delay uri (calls ++ [(scene.timeline.now, .schedule other)]) begun
      (PassRun.happen (.schedule other) scene) := by
  have coming := Timeline.coming_begin scene.timeline scene.state.delay
    (Event.expire (scene.state.schedule.issued + 1))
  have expiry : Timeline.arrival scene.timeline.now scene.state.delay =
      scene.timeline.now + delay := by
    rw [onTime.debounced.delay_eq, Timeline.arrival, if_pos positive]
  have past := le_of_lt (lt_add_of_pos_right scene.timeline.now positive)
  rw [expiry] at coming
  refine ⟨⟨onTime.proper.ordered, onTime.proper.notPast⟩, ?_⟩
  by_cases own : other = uri
  · cases own
    exact (onTime.debounced.request (untied rfl) past).perm coming.symm
  · exact (onTime.debounced.requestOther own past).perm coming.symm

end OnTime

end PassRun

end HomeConfig
