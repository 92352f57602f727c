import HomeConfig.Proofs.Live.Given

/-!
# What activities are served

A run serves an activity one answer after the other: a list that is kept, one that has just come in,
an old one in place of a failure, the failure itself, or the reply to a direct question.  Between two
answers other activities may run on the store, and drop or fetch any list.

An activity sees nothing of all this but the answers.  `Activity.ComesTo` says what it comes to with
some of them, and whatever a job is answered in a run of work, its activity comes to with the answers
that it has been served (`Work.exists_comesTo_of_answer`).  If it asks for each list once at most,
these can be given beforehand, so everything that is known of given answers holds in runs
(`Activity.ComesTo.exists_given`).
-/

namespace HomeConfig

/-- An answer that an activity has been served. -/
inductive Served
  | list (registry : Registry) (answer : Except Failure (Listing registry))
  | read (endpoint : Endpoint) (answer : Except Failure Json)

namespace Answers

/-- An answer is the one that has been served. -/
def Holds (answers : Answers) : Served → Prop
  | .list registry answer => answers.list registry = answer
  | .read endpoint answer => answers.read endpoint = answer

/-- The same answers but for one list. -/
def withList (answers : Answers) (registry : Registry)
    (answer : Except Failure (Listing registry)) : Answers where
  list other := if same : registry = other then same ▸ answer else answers.list other
  read := answers.read

theorem list_withList_self (answers : Answers) (registry : Registry)
    (answer : Except Failure (Listing registry)) :
    (answers.withList registry answer).list registry = answer := by
  simp [withList]

theorem list_withList_of_ne (answers : Answers) {registry other : Registry}
    (different : registry ≠ other) (answer : Except Failure (Listing registry)) :
    (answers.withList registry answer).list other = answers.list other := by
  simp [withList, different]

end Answers

namespace Activity

variable {α β : Type}

/-- An activity comes to a result when it is served some answers, the first of them first.  Every
index is built from the list that it is asked of. -/
inductive ComesTo : Activity α → List Served → α → Prop
  | finish (result : α) : ComesTo (.finish result) [] result
  | note {notice : Notice} {rest : Activity α} {served : List Served} {result : α}
      (goesOn : ComesTo rest served result) : ComesTo (.note notice rest) served result
  | list {registry : Registry} {next : Except Failure (Listing registry) → Activity α}
      {served : List Served} {result : α} (answer : Except Failure (Listing registry))
      (goesOn : ComesTo (next answer) served result) :
      ComesTo (.list registry next) (.list registry answer :: served) result
  | index {states : Listing .states} {next : EntityIndex → Activity α} {served : List Served}
      {result : α} (goesOn : ComesTo (next (.built states)) served result) :
      ComesTo (.index states next) served result
  | read {endpoint : Endpoint} {next : Except Failure Json → Activity α} {served : List Served}
      {result : α} (answer : Except Failure Json) (goesOn : ComesTo (next answer) served result) :
      ComesTo (.read endpoint next) (.read endpoint answer :: served) result

theorem comesTo_unshared_iff {activity : Activity α} {served : List Served} {result : α} :
    activity.unshared.ComesTo served result ↔ activity.ComesTo served result := by
  induction activity generalizing served with
  | finish other => exact Iff.rfl
  | note notice rest inductionHypothesis =>
    constructor
    · intro comes
      cases comes with
      | note goesOn => exact .note (inductionHypothesis.mp goesOn)
    · intro comes
      cases comes with
      | note goesOn => exact .note (inductionHypothesis.mpr goesOn)
  | list registry next inductionHypothesis =>
    constructor
    · intro comes
      cases comes with
      | list answer goesOn => exact .list answer ((inductionHypothesis answer).mp goesOn)
    · intro comes
      cases comes with
      | list answer goesOn => exact .list answer ((inductionHypothesis answer).mpr goesOn)
  | index states next inductionHypothesis =>
    constructor
    · intro goesOn
      exact .index ((inductionHypothesis _).mp goesOn)
    · intro comes
      cases comes with
      | index goesOn => exact (inductionHypothesis _).mpr goesOn
  | read endpoint next inductionHypothesis =>
    constructor
    · intro comes
      cases comes with
      | read answer goesOn => exact .read answer ((inductionHypothesis answer).mp goesOn)
    · intro comes
      cases comes with
      | read answer goesOn => exact .read answer ((inductionHypothesis answer).mpr goesOn)

/-- What an activity comes to goes on as the result of one that begins with it. -/
theorem ComesTo.of_bind {activity : Activity α} {next : α → Activity β} {served : List Served}
    {result : β} (comes : (activity >>= next).ComesTo served result) :
    ∃ first second middle, served = first ++ second ∧ activity.ComesTo first middle ∧
      (next middle).ComesTo second result := by
  induction activity generalizing served with
  | finish middle => exact ⟨[], served, middle, rfl, .finish middle, comes⟩
  | note notice rest inductionHypothesis =>
    cases comes with
    | note goesOn =>
      rcases inductionHypothesis goesOn with ⟨first, second, middle, rfl, comes, later⟩
      exact ⟨first, second, middle, rfl, .note comes, later⟩
  | list registry after inductionHypothesis =>
    cases comes with
    | list answer goesOn =>
      rcases inductionHypothesis answer goesOn with ⟨first, second, middle, rfl, comes, later⟩
      exact ⟨_ :: first, second, middle, rfl, .list answer comes, later⟩
  | index states after inductionHypothesis =>
    cases comes with
    | index goesOn =>
      rcases inductionHypothesis _ goesOn with ⟨first, second, middle, rfl, comes, later⟩
      exact ⟨first, second, middle, rfl, .index comes, later⟩
  | read endpoint after inductionHypothesis =>
    cases comes with
    | read answer goesOn =>
      rcases inductionHypothesis answer goesOn with ⟨first, second, middle, rfl, comes, later⟩
      exact ⟨_ :: first, second, middle, rfl, .read answer comes, later⟩

/-- With given answers an activity comes to what it comes to when it is served these. -/
theorem ComesTo.given_eq {activity : Activity α} {served : List Served} {result : α}
    (comes : activity.ComesTo served result) {answers : Answers}
    (holds : ∀ answer ∈ served, answers.Holds answer) : activity.given answers = result := by
  induction comes with
  | finish result => rfl
  | note goesOn inductionHypothesis => exact inductionHypothesis holds
  | list answer goesOn inductionHypothesis =>
    rw [List.forall_mem_cons] at holds
    have same : answers.list _ = answer := holds.1
    rw [given, same]
    exact inductionHypothesis holds.2
  | index goesOn inductionHypothesis => exact inductionHypothesis holds
  | read answer goesOn inductionHypothesis =>
    rw [List.forall_mem_cons] at holds
    have same : answers.read _ = answer := holds.1
    rw [given, same]
    exact inductionHypothesis holds.2

/-- With given answers an activity comes to something, whatever they are. -/
theorem comesTo_given (activity : Activity α) (answers : Answers) :
    ∃ served, (∀ answer ∈ served, answers.Holds answer) ∧
      activity.ComesTo served (activity.given answers) := by
  induction activity with
  | finish result => exact ⟨[], nofun, .finish result⟩
  | note notice rest inductionHypothesis =>
    rcases inductionHypothesis with ⟨served, holds, comes⟩
    exact ⟨served, holds, .note comes⟩
  | list registry next inductionHypothesis =>
    rcases inductionHypothesis (answers.list registry) with ⟨served, holds, comes⟩
    exact ⟨.list registry (answers.list registry) :: served,
      List.forall_mem_cons.mpr ⟨rfl, holds⟩, .list _ comes⟩
  | index states next inductionHypothesis =>
    rcases inductionHypothesis (.built states) with ⟨served, holds, comes⟩
    exact ⟨served, holds, .index comes⟩
  | read endpoint next inductionHypothesis =>
    rcases inductionHypothesis (answers.read endpoint) with ⟨served, holds, comes⟩
    exact ⟨.read endpoint (answers.read endpoint) :: served,
      List.forall_mem_cons.mpr ⟨rfl, holds⟩, .read _ comes⟩

/-! ## Lists that are asked for once -/

/-- An activity asks for each of some lists once at most, and for nothing else. -/
def AsksOnce (asked : Registry → Prop) : Activity α → Prop
  | finish _ => True
  | note _ rest => rest.AsksOnce asked
  | list registry next =>
    asked registry ∧ ∀ answer, (next answer).AsksOnce fun other => asked other ∧ other ≠ registry
  | index _ next => ∀ index, (next index).AsksOnce asked
  | read _ _ => False

variable {asked : Registry → Prop}

theorem AsksOnce.mono {more : Registry → Prop} {activity : Activity α}
    (asks : activity.AsksOnce asked) (grows : ∀ registry, asked registry → more registry) :
    activity.AsksOnce more := by
  induction activity generalizing asked more with
  | finish result => trivial
  | note notice rest inductionHypothesis => exact inductionHypothesis asks grows
  | list registry next inductionHypothesis =>
    refine ⟨grows registry asks.1, fun answer => inductionHypothesis answer (asks.2 answer) ?_⟩
    exact fun other both => ⟨grows other both.1, both.2⟩
  | index states next inductionHypothesis =>
    exact fun index => inductionHypothesis index (asks index) grows
  | read endpoint next inductionHypothesis => exact asks.elim

theorem AsksOnce.asksOnly {activity : Activity α} (asks : activity.AsksOnce asked) :
    activity.AsksOnly asked := by
  induction activity generalizing asked with
  | finish result => trivial
  | note notice rest inductionHypothesis => exact inductionHypothesis asks
  | list registry next inductionHypothesis =>
    refine ⟨asks.1, fun answer => ?_⟩
    exact (inductionHypothesis answer (asks.2 answer)).mono fun _ both => both.1
  | index states next inductionHypothesis =>
    exact fun index => inductionHypothesis index (asks index)
  | read endpoint next inductionHypothesis => exact asks.elim

/-- An activity that asks for some lists goes on with one that asks for others. -/
theorem AsksOnce.bind {other : Registry → Prop} {activity : Activity α} {next : α → Activity β}
    (asks : activity.AsksOnce asked) (goesOn : ∀ result, (next result).AsksOnce other)
    (apart : ∀ registry, asked registry → ¬ other registry) :
    (activity >>= next).AsksOnce fun registry => asked registry ∨ other registry := by
  induction activity generalizing asked with
  | finish result => exact (goesOn result).mono fun _ => Or.inr
  | note notice rest inductionHypothesis => exact inductionHypothesis asks apart
  | list registry after inductionHypothesis =>
    refine ⟨Or.inl asks.1, fun answer => ?_⟩
    refine (inductionHypothesis answer (asks.2 answer) fun _ both => apart _ both.1).mono ?_
    rintro found (⟨old, different⟩ | new)
    · exact ⟨Or.inl old, different⟩
    · exact ⟨Or.inr new, fun same => apart registry asks.1 (same ▸ new)⟩
  | index states after inductionHypothesis =>
    exact fun index => inductionHypothesis index (asks index) apart
  | read endpoint after inductionHypothesis => exact asks.elim

/-- An activity that goes on without a question asks for nothing more. -/
theorem AsksOnce.bind_quiet {activity : Activity α} {next : α → Activity β}
    (asks : activity.AsksOnce asked) (quiet : ∀ result, (next result).AsksOnce fun _ => False) :
    (activity >>= next).AsksOnce asked :=
  (asks.bind quiet fun _ _ => id).mono fun _ either => either.elim id False.elim

/-- What an activity has been served can be given beforehand if it asks for each list once at most.
The lists that it does not ask for may be any. -/
theorem ComesTo.exists_holds {activity : Activity α} {served : List Served} {result : α}
    (comes : activity.ComesTo served result) (asks : activity.AsksOnce asked) (others : Answers) :
    ∃ answers : Answers, (∀ answer ∈ served, answers.Holds answer) ∧
      ∀ registry, ¬ asked registry → answers.list registry = others.list registry := by
  induction comes generalizing asked others with
  | finish result => exact ⟨others, nofun, fun _ _ => rfl⟩
  | note goesOn inductionHypothesis => exact inductionHypothesis asks others
  | @list registry next served result answer goesOn inductionHypothesis =>
    rcases inductionHypothesis (asks.2 answer) (others.withList registry answer) with
      ⟨answers, holds, rest⟩
    -- The list is not asked for again, so it stays the one that is put among the others here.
    have here : answers.list registry = answer := by
      rw [rest registry fun both => both.2 rfl, Answers.list_withList_self]
    refine ⟨answers, List.forall_mem_cons.mpr ⟨here, holds⟩, fun other notAsked => ?_⟩
    have different : registry ≠ other := fun same => notAsked (same ▸ asks.1)
    rw [rest other fun both => notAsked both.1, Answers.list_withList_of_ne _ different]
  | index goesOn inductionHypothesis => exact inductionHypothesis (asks _) others
  | read answer goesOn inductionHypothesis => exact asks.elim

theorem ComesTo.exists_given {activity : Activity α} {served : List Served} {result : α}
    (comes : activity.ComesTo served result) (asks : activity.AsksOnce asked) :
    ∃ answers : Answers, (∀ answer ∈ served, answers.Holds answer) ∧
      activity.given answers = result := by
  rcases comes.exists_holds asks ⟨fun _ => .error .notACollection, fun _ => .ok .null⟩ with
    ⟨answers, holds, _⟩
  exact ⟨answers, holds, comes.given_eq holds⟩

end Activity

/-! ## Runs -/

namespace Progress

variable {α : Type}

/-- How far an activity has come with the answers that it has been served: whatever it comes to from
there, it comes to as a whole. -/
def Continues (whole : Activity α) (served : List Served) : Progress α → Prop
  | finished result => whole.ComesTo served result
  | listing _ registry _ next => ∀ answer later result, (next answer).ComesTo later result →
      whole.ComesTo (served ++ .list registry answer :: later) result
  | reading _ endpoint next => ∀ answer later result, (next answer).ComesTo later result →
      whole.ComesTo (served ++ .read endpoint answer :: later) result

variable {whole : Activity α} {served : List Served} {progress : Progress α}

theorem continues_unshared_iff :
    progress.unshared.Continues whole served ↔ progress.Continues whole served := by
  cases progress with
  | finished result => exact Iff.rfl
  | listing access registry previous next =>
    simp only [unshared, Continues, Activity.comesTo_unshared_iff]
  | reading access endpoint next =>
    simp only [unshared, Continues, Activity.comesTo_unshared_iff]

/-- What an activity is served at once brings it on. -/
theorem continues_advance (activity : Activity α) (served : List Served) (now : Moment)
    (store : Store)
    (goesOn : ∀ later result, activity.ComesTo later result →
      whole.ComesTo (served ++ later) result) :
    ∃ more, (activity.unshared.advance now store).1.Continues whole (served ++ more) := by
  induction activity generalizing served store with
  | finish result => exact ⟨[], goesOn [] result (.finish result)⟩
  | note notice rest inductionHypothesis =>
    exact inductionHypothesis served store fun later result comes => goesOn later result (.note comes)
  | list registry next inductionHypothesis =>
    have continues (answer : Except Failure (Listing registry)) (store : Store) :
        ∃ more, ((next answer).unshared.advance now store).1.Continues whole (served ++ more) := by
      rcases inductionHypothesis answer (served ++ [.list registry answer]) store
          (fun later result comes => by
            simpa using goesOn _ result (.list answer comes)) with ⟨more, continues⟩
      exact ⟨.list registry answer :: more, by simpa using continues⟩
    simp only [Activity.unshared, Activity.advance]
    cases store.lists.fresh? now registry with
    | some entry => exact continues (.ok entry) store
    | none =>
      cases store.access with
      | some access =>
        refine ⟨[], fun answer later result comes => ?_⟩
        rw [List.append_nil]
        exact goesOn _ result (.list answer (Activity.comesTo_unshared_iff.mp comes))
      | none => exact continues _ _
  | index states next inductionHypothesis =>
    exact inductionHypothesis _ served store fun later result comes => goesOn later result (.index comes)
  | read endpoint next inductionHypothesis =>
    simp only [Activity.unshared, Activity.advance]
    cases store.access with
    | some access =>
      refine ⟨[], fun answer later result comes => ?_⟩
      rw [List.append_nil]
      exact goesOn _ result (.read answer (Activity.comesTo_unshared_iff.mp comes))
    | none =>
      rcases inductionHypothesis (disconnectedAnswer endpoint)
          (served ++ [.read endpoint (disconnectedAnswer endpoint)]) store
          (fun later result comes => by
            simpa using goesOn _ result (.read _ comes)) with ⟨more, continues⟩
      exact ⟨.read endpoint (disconnectedAnswer endpoint) :: more, by simpa using continues⟩

/-- A reply brings an activity on. -/
theorem Continues.resume (continues : progress.Continues whole served) (now : Moment)
    (reply : Reply) (store : Store) :
    ∃ more, (progress.unshared.resume now reply store).1.Continues whole (served ++ more) := by
  cases progress with
  | finished result => exact ⟨[], by rw [List.append_nil]; exact continues⟩
  | listing access registry previous next =>
    simp only [unshared, Progress.resume]
    generalize store.settle now registry previous _ = settled
    rcases continues_advance (next settled.1) (served ++ [.list registry settled.1]) now
        settled.2.1
        (fun later result comes => by simpa using continues _ later result comes) with
      ⟨more, brought⟩
    exact ⟨.list registry settled.1 :: more, by simpa using brought⟩
  | reading access endpoint next =>
    simp only [unshared, Progress.resume]
    generalize Reply.content (access.url endpoint) reply = answer
    rcases continues_advance (next answer) (served ++ [.read endpoint answer]) now store
        (fun later result comes => by simpa using continues answer later result comes) with
      ⟨more, brought⟩
    exact ⟨.read endpoint answer :: more, by simpa using brought⟩

end Progress

namespace Work

variable {ι α : Type}

/-- A job has been begun with an activity, and not been begun anew since. -/
def Begun (events : List (Event ι α)) (job : ι) (activity : Activity α) : Prop :=
  ∃ before now later, events = before ++ .begin job now activity :: later ∧
    ∀ time other, .begin job time other ∉ later

theorem begun_concat (events : List (Event ι α)) (job : ι) (now : Moment)
    (activity : Activity α) : Begun (events ++ [.begin job now activity]) job activity :=
  ⟨events, now, [], rfl, fun _ _ => List.not_mem_nil⟩

theorem Begun.concat {events : List (Event ι α)} {job : ι} {activity : Activity α}
    (begun : Begun events job activity) {event : Event ι α}
    (other : ∀ now activity, event ≠ .begin job now activity) :
    Begun (events ++ [event]) job activity := by
  rcases begun with ⟨before, now, later, rfl, notAnew⟩
  refine ⟨before, now, later ++ [event], by simp, fun time activity member => ?_⟩
  rcases List.mem_append.mp member with old | new
  · exact notAnew time activity old
  · exact other time activity (List.mem_singleton.mp new).symm

/-- Every job that is answered is answered in what its activity comes to. -/
def Answered (events : List (Event ι α)) (effects : List (Effect ι α)) : Prop :=
  ∀ job result, .answer job result ∈ effects →
    ∃ activity served, Begun events job activity ∧ activity.ComesTo served result

theorem answered_nil (events : List (Event ι α)) : Answered events [] :=
  fun _ _ member => absurd member List.not_mem_nil

variable [DecidableEq ι]

/-- Every job that waits goes on with the activity that it was begun with. -/
def Continues (events : List (Event ι α)) (jobs : Table ι (Progress α)) : Prop :=
  ∀ job progress, jobs.find? job = some progress →
    ∃ activity served, Begun events job activity ∧ progress.Continues activity served

theorem continues_follow {events : List (Event ι α)} {work : Work ι α} {job : ι}
    {activity : Activity α} {served : List Served} {made : Progress α × Store × List Notice}
    (others : Continues events (work.jobs.erase job)) (begun : Begun events job activity)
    (continues : made.1.Continues activity served) :
    Answered events (work.follow job made).1 ∧ Continues events (work.follow job made).2.jobs := by
  have waits (waiting : Progress α) (continues : waiting.Continues activity served) :
      Continues events (work.jobs.insert job waiting) := by
    intro other progress found
    by_cases same : other = job
    · subst same
      rw [Table.find?_insert_self] at found
      cases found
      exact ⟨activity, served, begun, continues⟩
    · rw [Table.find?_insert_of_ne _ same] at found
      exact others other progress (by rw [Table.find?_erase_of_ne _ same, found])
  obtain ⟨progress, store, notices⟩ := made
  cases progress with
  | finished result =>
    refine ⟨fun other found member => ?_, others⟩
    cases List.mem_singleton.mp member
    exact ⟨activity, served, begun, continues⟩
  | listing access registry previous next =>
    refine ⟨fun other found member => ?_, waits _ continues⟩
    cases List.mem_singleton.mp member
  | reading access endpoint next =>
    refine ⟨fun other found member => ?_, waits _ continues⟩
    cases List.mem_singleton.mp member

/-- An event that begins no other job leaves the others with their activities. -/
theorem Continues.concat {events : List (Event ι α)} {jobs : Table ι (Progress α)}
    (continues : Continues events jobs) {event : Event ι α} (job : ι)
    (other : ∀ other ≠ job, ∀ now activity, event ≠ .begin other now activity) :
    Continues (events ++ [event]) (jobs.erase job) := by
  intro found progress waiting
  by_cases same : found = job
  · simp [same] at waiting
  · rw [Table.find?_erase_of_ne _ same] at waiting
    rcases continues found progress waiting with ⟨activity, served, begun, goesOn⟩
    exact ⟨activity, served, begun.concat (other found same), goesOn⟩

/-- Whatever happens, answers are what activities come to, and jobs go on with theirs. -/
theorem Continues.step {events : List (Event ι α)} {work plain : Work ι α} {archive : Archive}
    (continues : Continues events work.jobs) (mirrors : Mirrors work plain archive)
    {event : Event ι α} (indexes : event.Indexes) :
    Answered (events ++ [event]) (work.step event).1 ∧
      Continues (events ++ [event]) (work.next event).jobs := by
  cases event with
  | begin job now activity =>
    have others : Continues (events ++ [.begin job now activity]) (work.jobs.erase job) := by
      refine continues.concat job fun other different time activity same => ?_
      cases same
      exact different rfl
    have made := activity.advance_unshared now (indexes.mono fun _ _ => False.elim) mirrors.keeps
    rcases Progress.continues_advance activity [] now work.store.unshared
      (fun later result comes => comes) with ⟨served, brought⟩
    rw [made.same, Progress.continues_unshared_iff] at brought
    exact continues_follow others (begun_concat events job now activity) brought
  | replied job now reply =>
    have others : Continues (events ++ [.replied job now reply]) (work.jobs.erase job) :=
      continues.concat job (by simp)
    simp only [next, Work.step]
    cases found : work.jobs.find? job with
    | none =>
      refine ⟨answered_nil _, fun other progress waiting => ?_⟩
      have different : other ≠ job := by
        rintro rfl
        cases found.symm.trans waiting
      exact others other progress (by rw [Table.find?_erase_of_ne _ different, waiting])
    | some progress =>
      rcases continues job progress found with ⟨activity, served, begun, goesOn⟩
      have made := progress.resume_unshared now reply (mirrors.indexes job progress found)
        mirrors.keeps
      rcases goesOn.resume now reply work.store.unshared with ⟨more, brought⟩
      rw [made.same, Progress.continues_unshared_iff] at brought
      exact continues_follow others (begun.concat (by simp)) brought
  | dropped job =>
    refine ⟨answered_nil _, ?_⟩
    exact continues.concat job (by simp)
  | invalidated =>
    refine ⟨answered_nil _, fun job progress waiting => ?_⟩
    rcases continues job progress waiting with ⟨activity, served, begun, goesOn⟩
    exact ⟨activity, served, begun.concat (by simp), goesOn⟩

theorem continues_after (access : Option Access) (timeToLive : Moment) (events : List (Event ι α))
    (indexes : ∀ event ∈ events, event.Indexes) :
    Continues events ((new access timeToLive).after events).jobs := by
  induction events using List.reverseRecOn with
  | nil => exact fun job progress waiting => nomatch waiting
  | append_singleton events event inductionHypothesis =>
    have earlier : ∀ other ∈ events, other.Indexes := fun other member =>
      indexes other (by simp [member])
    rcases mirrors_after access timeToLive events earlier with ⟨archive, mirrors⟩
    rw [after_append]
    exact ((inductionHypothesis earlier).step mirrors (indexes event (by simp))).2

/-- A job is answered in what the activity that it was begun with comes to, when it is served some
answers. -/
theorem exists_comesTo_of_answer {access : Option Access} {timeToLive : Moment}
    {events : List (Event ι α)} {event : Event ι α}
    (indexes : ∀ event ∈ events, event.Indexes) (last : event.Indexes) {job : ι} {result : α}
    (answered : .answer job result ∈ (((new access timeToLive).after events).step event).1) :
    ∃ activity served, Begun (events ++ [event]) job activity ∧
      activity.ComesTo served result := by
  rcases mirrors_after access timeToLive events indexes with ⟨archive, mirrors⟩
  exact ((continues_after access timeToLive events indexes).step mirrors last).1 job result answered

end Work

end HomeConfig
