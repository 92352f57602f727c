import HomeConfig.Live.Query
import HomeConfig.Proofs.Cache.Run
import Mathlib.Data.List.Induction

/-!
# Questions for lists

Six lists can be asked for, each with a question of its own.  The questions of a session run on one
store, in any order and any number at a time: each waits for the reply to its own request, and the
store is what they share.  A question may also be dropped while it waits.

What the questions do to the lists of the store is what gets do to a cache.  `Call.uses` says which
gets: a question is a get under the name of its job, and a reply is the end of a fetch.  Without a
connection nothing has to be waited for, so there the fetch ends in the same moment.
`linked_after` and `step_after` say that nothing else happens: the lists are those of the cache,
requests are sent when and only when a get begins a fetch, and answers are those of the gets.
-/

namespace HomeConfig

theorem eq_ok_of_toOption {ε α : Type} {outcome : Except ε α} {value : α}
    (found : outcome.toOption = some value) : outcome = .ok value := by
  cases outcome with
  | ok other => exact congrArg Except.ok (Option.some.inj found)
  | error cause => cases found

/-- A store, and the activities on it that wait for replies, each under the name of its job. -/
structure Work (ι α : Type) where
  store : Store
  jobs : Table ι (Progress α)

namespace Work

variable {ι α : Type}

/-- What can happen. -/
inductive Event (ι α : Type)
  | begin (job : ι) (now : Moment) (activity : Activity α)
  | replied (job : ι) (now : Moment) (reply : Reply)
  | dropped (job : ι)
  | invalidated

/-- What is to be done. -/
inductive Effect (ι α : Type)
  | send (job : ι) (access : Access) (endpoint : Endpoint)
  | answer (job : ι) (result : α)

/-- No activity on a new store. -/
def new (access : Option Access) (timeToLive : Moment) : Work ι α :=
  ⟨.new access timeToLive, .empty⟩

variable [DecidableEq ι]

/-- Take over how far an activity has come. -/
def follow (work : Work ι α) (job : ι) :
    Progress α × Store × List Notice → List (Effect ι α) × Work ι α
  | (.finished result, store, _) => ([.answer job result], ⟨store, work.jobs.erase job⟩)
  | (waiting, store, _) => (
      waiting.request?.toList.map fun (access, endpoint) => .send job access endpoint,
      ⟨store, work.jobs.insert job waiting⟩)

/-- What an event makes to be done, and the work afterwards. -/
def step (work : Work ι α) : Event ι α → List (Effect ι α) × Work ι α
  | .begin job now activity => work.follow job (activity.advance now work.store)
  | .replied job now reply =>
    match work.jobs.find? job with
    | some progress => work.follow job (progress.resume now reply work.store)
    | none => ([], work)
  | .dropped job => ([], { work with jobs := work.jobs.erase job })
  | .invalidated => ([], { work with store := work.store.invalidate })

def next (work : Work ι α) (event : Event ι α) : Work ι α :=
  (work.step event).2

/-- The work after some events, the first of them first. -/
def after (work : Work ι α) (events : List (Event ι α)) : Work ι α :=
  events.foldl next work

@[simp] theorem after_nil (work : Work ι α) : work.after [] = work :=
  rfl

@[simp] theorem after_cons (work : Work ι α) (event : Event ι α) (later : List (Event ι α)) :
    work.after (event :: later) = (work.next event).after later :=
  rfl

@[simp] theorem after_append (work : Work ι α) (before later : List (Event ι α)) :
    work.after (before ++ later) = (work.after before).after later :=
  List.foldl_append

end Work

/-! ## The six questions -/

/-- The answer to a question for a list. -/
abbrev Reading := (registry : Registry) × Except Failure (List registry.Item)

namespace Reading

/-- The question for a list.  Floors and labels may be missing, and are empty then. -/
def inquiry : (registry : Registry) → Inquiry (List registry.Item)
  | .floors => .listOrEmpty .floors
  | .labels => .listOrEmpty .labels
  | registry => .list registry

/-- The question for a list, with its answer told apart from those of other lists. -/
def ask (registry : Registry) : Activity Reading :=
  Sigma.mk registry <$> (inquiry registry).run

/-- The answer to a question whose get has a given result. -/
def ofResult : (registry : Registry) → Except Failure (Listing registry) → Reading
  | .floors, .error _ => ⟨.floors, .ok []⟩
  | .labels, .error _ => ⟨.labels, .ok []⟩
  | registry, result => ⟨registry, result.map Cache.Entry.value⟩

/-- What a question does with the result of its get. -/
def answer : (registry : Registry) → Except Failure (Listing registry) → Activity Reading
  | .floors, .error cause => .note (.unavailable .floors cause) (.finish ⟨.floors, .ok []⟩)
  | .labels, .error cause => .note (.unavailable .labels cause) (.finish ⟨.labels, .ok []⟩)
  | registry, result => .finish ⟨registry, result.map Cache.Entry.value⟩

theorem ask_eq (registry : Registry) : ask registry = .list registry (answer registry) := by
  cases registry <;>
    exact congrArg (Activity.list _) (funext fun result => by cases result <;> rfl)

theorem advance_answer (registry : Registry) (result : Except Failure (Listing registry))
    (now : Moment) (store : Store) :
    ∃ notices, (answer registry result).advance now store =
      (.finished (ofResult registry result), store, notices) := by
  cases registry <;> cases result <;> exact ⟨_, rfl⟩

/-- A question that waits for its list ends with the reply. -/
theorem resume_answer (access : Access) (registry : Registry) (previous : Option (Listing registry))
    (now : Moment) (reply : Reply) (store : Store) :
    let settled := store.lists.settle now registry previous
      (registry.ofReply (access.url registry.endpoint) reply)
    ∃ notices,
      (Progress.listing access registry previous (answer registry)).resume now reply store =
        (.finished (ofResult registry settled.1.result), { store with lists := settled.2 },
          notices) := by
  intro settled
  obtain ⟨notices, finished⟩ :=
    advance_answer registry settled.1.result now { store with lists := settled.2 }
  refine ⟨Store.staleNotices registry.name settled.1 ++ notices, ?_⟩
  simp only [Progress.resume, Store.settle, finished, settled]

/-- Without a connection a question for a missing list ends at once. -/
theorem advance_ask_disconnected {registry : Registry} {now : Moment} {store : Store}
    (source : store.access = none) (missing : store.lists.fresh? now registry = none) :
    let stored := store.lists.store now registry []
    ∃ notices, (ask registry).advance now store =
      (.finished (ofResult registry (.ok stored.1)), { store with lists := stored.2 },
        notices) := by
  intro stored
  obtain ⟨notices, finished⟩ :=
    advance_answer registry (.ok stored.1) now { store with lists := stored.2 }
  refine ⟨[] ++ notices, ?_⟩
  rw [ask_eq, Activity.advance, missing]
  simp only [Store.settle, Cache.settle, Cache.Outcome.result, Store.staleNotices]
  split
  next connected => cases source.symm.trans connected
  next => rw [finished]

end Reading

/-! ## Questions as gets -/

/-- What a store keeps of a registry. -/
abbrev Items (registry : Registry) : Type :=
  List registry.Item

/-- What can happen while lists are asked for. -/
inductive Call (ι : Type)
  | asked (job : ι) (now : Moment) (registry : Registry)
  | replied (job : ι) (now : Moment) (reply : Reply)
  | dropped (job : ι)
  | invalidated

namespace Call

variable {ι : Type}

/-- A call as an event of the work. -/
def event : Call ι → Work.Event ι Reading
  | asked job now registry => .begin job now (Reading.ask registry)
  | replied job now reply => .replied job now reply
  | dropped job => .dropped job
  | invalidated => .invalidated

/-- What a call does with the lists, with or without a connection. -/
def uses : Option Access → Call ι → List (Cache.Traffic.Event ι Moment Registry Items Failure)
  | some _, asked job now registry => [.get job now registry]
  | none, asked job now registry => [.get job now registry, .ended job now fun _ => .ok []]
  | some access, replied job now reply =>
    [.ended job now fun registry => registry.ofReply (access.url registry.endpoint) reply]
  | none, replied _ _ _ => []
  | _, dropped job => [.cancelled job]
  | _, invalidated => [.invalidated]

/-- What is to be done because of a get. -/
def shown : Option Access → Cache.Traffic.Effect ι Moment Registry Items Failure →
    List (Work.Effect ι Reading)
  | some access, .fetch job registry => [.send job access registry.endpoint]
  | none, .fetch _ _ => []
  | _, .answer job registry outcome => [.answer job (Reading.ofResult registry outcome.result)]

end Call

namespace Work

variable {ι : Type} [DecidableEq ι]

/-- The jobs of some work are the gets of a cache that wait for their fetches. -/
structure Linked (access : Option Access) (work : Work ι Reading)
    (traffic : Cache.Traffic ι Moment Registry Items) : Prop where
  source : work.store.access = access
  lists : work.store.lists = traffic.cache
  waiting : ∀ job, work.jobs.find? job = (traffic.fetches.find? job).bind fun fetch =>
    access.map fun access => .listing access fetch.key fetch.previous (Reading.answer fetch.key)
  offline : access = none → ∀ job, traffic.fetches.find? job = none

theorem linked_new (access : Option Access) (timeToLive : Moment) :
    Linked access (new access timeToLive : Work ι Reading) (.start timeToLive) where
  source := rfl
  lists := rfl
  waiting := fun _ => rfl
  offline := fun _ _ => rfl

theorem connect_lists (store : Store) : store.connect.lists = store.lists := by
  unfold Store.connect
  split <;> rfl

theorem connect_access (store : Store) : store.connect.access = store.access := by
  unfold Store.connect
  split <;> rfl

namespace Linked

variable {access : Option Access} {work : Work ι Reading}
  {traffic : Cache.Traffic ι Moment Registry Items}

/-- A job that ends is the end of its get. -/
theorem ended (linked : Linked access work traffic) (lists : Cache Moment Registry Items)
    (job : ι) :
    Linked access ⟨{ work.store with lists := lists }, work.jobs.erase job⟩
      ⟨lists, traffic.fetches.erase job⟩ where
  source := linked.source
  lists := rfl
  waiting := by
    intro other
    by_cases same : other = job
    · simp [same]
    · rw [Table.find?_erase_of_ne _ same, Table.find?_erase_of_ne _ same]
      exact linked.waiting other
  offline := by
    intro missing other
    by_cases same : other = job
    · simp [same]
    · rw [Table.find?_erase_of_ne _ same]
      exact linked.offline missing other

/-- A job that ends and stores nothing is the end of its get too. -/
theorem erased (linked : Linked access work traffic) (job : ι) :
    Linked access ⟨work.store, work.jobs.erase job⟩
      ⟨traffic.cache, traffic.fetches.erase job⟩ := by
  rw [← linked.lists]
  exact linked.ended work.store.lists job

/-- A job that waits for a list is a get that waits for its fetch. -/
theorem begun {source : Access} (linked : Linked (some source) work traffic) (job : ι)
    (registry : Registry) (previous : Option (Listing registry)) :
    Linked (some source)
      ⟨work.store.connect,
        work.jobs.insert job (.listing source registry previous (Reading.answer registry))⟩
      ⟨traffic.cache, traffic.fetches.insert job ⟨registry, previous⟩⟩ where
  source := by rw [connect_access, linked.source]
  lists := by rw [connect_lists, linked.lists]
  waiting := by
    intro other
    by_cases same : other = job
    · simp [same]
    · rw [Table.find?_insert_of_ne _ same, Table.find?_insert_of_ne _ same]
      exact linked.waiting other
  offline := nofun

/-- The jobs do what the gets do. -/
def Follows (access : Option Access) (work : Work ι Reading)
    (traffic : Cache.Traffic ι Moment Registry Items) (call : Call ι) : Prop :=
  (work.step call.event).1 = (traffic.effects (call.uses access)).flatMap (Call.shown access) ∧
    Linked access (work.next call.event) (traffic.after (call.uses access))

theorem asked_fresh (linked : Linked access work traffic) (job : ι) {now : Moment}
    {registry : Registry} {entry : Listing registry}
    (fresh : traffic.cache.fresh? now registry = some entry) :
    Follows access work traffic (.asked job now registry) := by
  obtain ⟨notices, finished⟩ := Reading.advance_answer registry (.ok entry) now work.store
  have advanced : (Reading.ask registry).advance now work.store =
      (.finished (Reading.ofResult registry (.ok entry)), work.store, notices) := by
    rw [Reading.ask_eq, Activity.advance, linked.lists, fresh]
    exact finished
  have ended := linked.erased job
  cases access with
  | some source =>
    refine ⟨?_, ?_⟩
    · simp [Call.event, Call.uses, Call.shown, step, follow, advanced, Cache.Traffic.effects,
        Cache.Traffic.step, fresh, Cache.Outcome.result]
    · simpa [Call.event, Call.uses, next, step, follow, advanced, Cache.Traffic.next,
        Cache.Traffic.step, fresh] using ended
  | none =>
    refine ⟨?_, ?_⟩
    · simp [Call.event, Call.uses, Call.shown, step, follow, advanced, Cache.Traffic.effects,
        Cache.Traffic.next, Cache.Traffic.step, fresh, Cache.Outcome.result]
    · simpa [Call.event, Call.uses, next, step, follow, advanced, Cache.Traffic.next,
        Cache.Traffic.step, fresh] using ended

theorem asked_connected {source : Access} (linked : Linked (some source) work traffic) (job : ι)
    {now : Moment} {registry : Registry} (missing : traffic.cache.fresh? now registry = none) :
    Follows (some source) work traffic (.asked job now registry) := by
  have advanced : (Reading.ask registry).advance now work.store =
      (.listing source registry (traffic.cache.find? registry) (Reading.answer registry),
        work.store.connect, []) := by
    rw [Reading.ask_eq, Activity.advance, linked.lists, missing]
    simp only [linked.source]
  refine ⟨?_, ?_⟩
  · simp [Call.event, Call.uses, Call.shown, step, follow, advanced, Progress.request?,
      Cache.Traffic.effects, Cache.Traffic.step, missing]
  · simpa [Call.event, Call.uses, next, step, follow, advanced, Cache.Traffic.next,
      Cache.Traffic.step, missing] using linked.begun job registry _

theorem asked_disconnected (linked : Linked none work traffic) (job : ι) {now : Moment}
    {registry : Registry} (missing : traffic.cache.fresh? now registry = none) :
    Follows none work traffic (.asked job now registry) := by
  obtain ⟨notices, advanced⟩ :=
    Reading.advance_ask_disconnected linked.source (linked.lists ▸ missing)
  rw [linked.lists] at advanced
  refine ⟨?_, ?_⟩
  · simp [Call.event, Call.uses, Call.shown, step, follow, advanced, Cache.Traffic.effects,
      Cache.Traffic.next, Cache.Traffic.step, missing, Cache.settle, Cache.Outcome.result]
  · have ended := linked.ended (traffic.cache.store now registry []).2 job
    simpa [Call.event, Call.uses, next, step, follow, advanced, Cache.Traffic.next,
      Cache.Traffic.step, missing, Cache.settle] using ended

theorem replied_late (linked : Linked access work traffic) {job : ι}
    (missing : traffic.fetches.find? job = none) (now : Moment) (reply : Reply) :
    Follows access work traffic (.replied job now reply) := by
  have nothing : work.jobs.find? job = none := by
    rw [linked.waiting, missing]
    rfl
  -- Without a connection a reply is not even the end of a fetch.
  cases access with
  | some source =>
    refine ⟨?_, ?_⟩
    · simp [Call.event, Call.uses, step, nothing, Cache.Traffic.effects, Cache.Traffic.step,
        missing]
    · simpa [Call.event, Call.uses, next, step, nothing, Cache.Traffic.next, Cache.Traffic.step,
        missing] using linked
  | none =>
    refine ⟨?_, ?_⟩
    · simp [Call.event, Call.uses, step, nothing, Cache.Traffic.effects]
    · simpa [Call.event, Call.uses, next, step, nothing] using linked

theorem replied_waiting {source : Access} (linked : Linked (some source) work traffic) {job : ι}
    {fetch : Cache.Fetch Moment Registry Items} (found : traffic.fetches.find? job = some fetch)
    (now : Moment) (reply : Reply) :
    Follows (some source) work traffic (.replied job now reply) := by
  have waiting : work.jobs.find? job = some
      (.listing source fetch.key fetch.previous (Reading.answer fetch.key)) := by
    rw [linked.waiting, found]
    rfl
  obtain ⟨notices, resumed⟩ :=
    Reading.resume_answer source fetch.key fetch.previous now reply work.store
  rw [linked.lists] at resumed
  have ended := linked.ended (traffic.cache.settle now fetch.key fetch.previous
    (fetch.key.ofReply (source.url fetch.key.endpoint) reply)).2 job
  refine ⟨?_, ?_⟩
  · simp [Call.event, Call.uses, Call.shown, step, waiting, follow, resumed, Cache.Traffic.effects,
      Cache.Traffic.step, found]
  · simpa [Call.event, Call.uses, next, step, waiting, follow, resumed, Cache.Traffic.next,
      Cache.Traffic.step, found] using ended

/-- Whatever is called, the jobs do what the gets do. -/
theorem follows (linked : Linked access work traffic) (call : Call ι) :
    Follows access work traffic call := by
  cases call with
  | asked job now registry =>
    cases fresh : traffic.cache.fresh? now registry with
    | some entry => exact linked.asked_fresh job fresh
    | none =>
      cases access with
      | some source => exact linked.asked_connected job fresh
      | none => exact linked.asked_disconnected job fresh
  | replied job now reply =>
    cases found : traffic.fetches.find? job with
    | none => exact linked.replied_late found now reply
    | some fetch =>
      cases access with
      | some source => exact linked.replied_waiting found now reply
      | none => cases (linked.offline rfl job).symm.trans found
  | dropped job =>
    have ended := linked.erased job
    cases access <;> exact ⟨rfl, ended⟩
  | invalidated =>
    have cleared : Linked access { work with store := work.store.invalidate }
        { traffic with cache := traffic.cache.invalidate } :=
      { source := linked.source
        lists := congrArg Cache.invalidate linked.lists
        waiting := linked.waiting
        offline := linked.offline }
    cases access <;> exact ⟨rfl, cleared⟩

end Linked

/-- However many questions have been asked, the lists of the store are those of a cache. -/
theorem linked_after (access : Option Access) (timeToLive : Moment) (calls : List (Call ι)) :
    Linked access ((new access timeToLive).after (calls.map Call.event))
      ((Cache.Traffic.start timeToLive).after (calls.flatMap (Call.uses access))) := by
  induction calls using List.reverseRecOn with
  | nil => exact linked_new access timeToLive
  | append_singleton calls call inductionHypothesis =>
    simpa using (inductionHypothesis.follows call).2

/-- Requests are sent, and questions answered, as the gets want it. -/
theorem step_after (access : Option Access) (timeToLive : Moment) (calls : List (Call ι))
    (call : Call ι) :
    (((new access timeToLive).after (calls.map Call.event)).step call.event).1 =
      (((Cache.Traffic.start timeToLive).after (calls.flatMap (Call.uses access))).effects
        (call.uses access)).flatMap (Call.shown access) :=
  ((linked_after access timeToLive calls).follows call).1

end Work

end HomeConfig
