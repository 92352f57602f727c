import HomeConfig.Proofs.Cache.Serving
import HomeConfig.Proofs.Live.Run

/-!
# What is served of the six lists

However the questions of a session overlap, each list is the one that was fetched last, and a
question sends a request exactly when there is none that is young enough.  A failure changes no list.
Floors and labels are never answered with a failure: when they cannot be had they are empty, and that
is not kept (`ListsServeLatest`).
-/

namespace HomeConfig

theorem Reading.fst_ofResult (registry : Registry) (result : Except Failure (Listing registry)) :
    (Reading.ofResult registry result).1 = registry := by
  cases registry <;> cases result <;> rfl

/-- Floors and labels are never answered with a failure. -/
theorem Reading.exists_ok_of_optional {registry : Registry}
    (optional : registry = .floors ∨ registry = .labels)
    (result : Except Failure (Listing registry)) :
    ∃ items, Reading.ofResult registry result = ⟨registry, .ok items⟩ := by
  rcases optional with rfl | rfl
  · cases result with
    | ok entry => exact ⟨entry.value, rfl⟩
    | error cause => exact ⟨[], rfl⟩
  · cases result with
    | ok entry => exact ⟨entry.value, rfl⟩
    | error cause => exact ⟨[], rfl⟩

theorem Call.eq_asked_of_get_mem_uses {ι : Type} {access : Option Access} {call : Call ι} {job : ι}
    {now : Moment} {registry : Registry} (used : .get job now registry ∈ call.uses access) :
    call = .asked job now registry := by
  cases call <;> cases access <;> simp [Call.uses] at used
  · obtain ⟨rfl, rfl, rfl⟩ := used
    rfl
  · obtain ⟨rfl, rfl, rfl⟩ := used
    rfl

namespace Work

variable {ι : Type}

/-- Only the beginning of a fetch sends a request. -/
theorem eq_fetch_of_send_mem_shown {access : Option Access} {source : Access} {endpoint : Endpoint}
    {effect : Cache.Traffic.Effect ι Moment Registry Items Failure} {job : ι}
    (sent : Effect.send job source endpoint ∈ Call.shown access effect) :
    ∃ registry, effect = .fetch job registry ∧ endpoint = registry.endpoint := by
  cases effect with
  | fetch name registry =>
    cases access with
    | none => simp [Call.shown] at sent
    | some _ =>
      obtain ⟨rfl, rfl, rfl⟩ : job = name ∧ source = _ ∧ endpoint = registry.endpoint := by
        simpa [Call.shown] using sent
      exact ⟨registry, rfl, rfl⟩
  | answer name registry outcome => cases access <;> simp [Call.shown] at sent

/-- Only the answer to a get answers a question. -/
theorem eq_answer_of_answer_mem_shown {access : Option Access} {reading : Reading}
    {effect : Cache.Traffic.Effect ι Moment Registry Items Failure} {job : ι}
    (answered : Effect.answer job reading ∈ Call.shown access effect) :
    ∃ registry outcome, effect = .answer job registry outcome ∧
      reading = Reading.ofResult registry outcome.result := by
  cases effect with
  | fetch name registry => cases access <;> simp [Call.shown] at answered
  | answer name registry outcome =>
    obtain ⟨rfl, rfl⟩ : job = name ∧ reading = Reading.ofResult registry outcome.result := by
      cases access <;> simpa [Call.shown] using answered
    exact ⟨registry, outcome, rfl, rfl⟩

variable [DecidableEq ι]

/-- What one who asks sees of the six lists, after some calls have led to the work. -/
structure ListsServeLatest (access : Option Access) (timeToLive : Moment) (calls : List (Call ι))
    (work : Work ι Reading) : Prop where
  /-- A list is the one that the last fetch of it has brought that has ended well. -/
  lists (registry : Registry) (entry : Listing registry) :
    work.store.lists.find? registry = some entry ↔
      Cache.Traffic.IsLatest timeToLive registry entry (calls.flatMap (Call.uses access))
  served (job : ι) (now : Moment) (registry : Registry) (entry : Listing registry) :
    work.store.lists.find? registry = some entry → now - entry.fetchedAt < timeToLive →
      (work.step (Call.asked job now registry).event).1 =
        [.answer job (Reading.ofResult registry (.ok entry))]
  requested (source : Access) (job : ι) (now : Moment) (registry : Registry) :
    access = some source →
      (∀ entry, work.store.lists.find? registry = some entry →
        ¬now - entry.fetchedAt < timeToLive) →
      (work.step (Call.asked job now registry).event).1 = [.send job source registry.endpoint]
  requestedOnce (call : Call ι) (job : ι) (source : Access) (endpoint : Endpoint) :
    .send job source endpoint ∈ (work.step call.event).1 →
      ∃ now registry, call = .asked job now registry ∧ endpoint = registry.endpoint
  /-- When a fetch fails the list that was there when it began is the answer, and no list changes. -/
  failed (job : ι) (now : Moment) (reply : Reply) (source : Access) (registry : Registry)
    (previous : Option (Listing registry))
    (goOn : Except Failure (Listing registry) → Activity Reading) (cause : Failure) :
    work.jobs.find? job = some (.listing source registry previous goOn) →
      registry.ofReply (source.url registry.endpoint) reply = .error cause →
      (work.step (Call.replied job now reply).event).1 =
          [.answer job (Reading.ofResult registry (previous.elim (.error cause) .ok))] ∧
        (work.next (Call.replied job now reply).event).store.lists = work.store.lists
  dropped (job : ι) : (work.next (Call.dropped job).event).store.lists = work.store.lists
  optional (call : Call ι) (job : ι) (registry : Registry)
    (result : Except Failure (List registry.Item)) :
    registry = .floors ∨ registry = .labels →
      .answer job ⟨registry, result⟩ ∈ (work.step call.event).1 → ∃ items, result = .ok items

namespace Linked

variable {access : Option Access} {work : Work ι Reading}
  {traffic : Cache.Traffic ι Moment Registry Items}

theorem step_fresh (linked : Linked access work traffic) (job : ι) {now : Moment}
    {registry : Registry} {entry : Listing registry}
    (fresh : traffic.cache.fresh? now registry = some entry) :
    (work.step (Call.asked job now registry).event).1 =
      [.answer job (Reading.ofResult registry (.ok entry))] := by
  rw [(linked.follows _).1]
  cases access <;>
    simp [Call.uses, Call.shown, Cache.Traffic.effects, Cache.Traffic.next, Cache.Traffic.step,
      fresh, Cache.Outcome.result]

theorem step_missing {source : Access} (linked : Linked (some source) work traffic) (job : ι)
    {now : Moment} {registry : Registry} (missing : traffic.cache.fresh? now registry = none) :
    (work.step (Call.asked job now registry).event).1 = [.send job source registry.endpoint] := by
  rw [(linked.follows _).1]
  simp [Call.uses, Call.shown, Cache.Traffic.effects, Cache.Traffic.step, missing]

/-- Only a question sends a request, and only for its list. -/
theorem eq_asked_of_send_mem_step (linked : Linked access work traffic) {call : Call ι} {job : ι}
    {source : Access} {endpoint : Endpoint}
    (sent : .send job source endpoint ∈ (work.step call.event).1) :
    ∃ now registry, call = .asked job now registry ∧ endpoint = registry.endpoint := by
  rw [(linked.follows call).1, List.mem_flatMap] at sent
  rcases sent with ⟨effect, member, shown⟩
  rcases eq_fetch_of_send_mem_shown shown with ⟨registry, rfl, same⟩
  rcases Cache.Traffic.exists_step_of_mem_effects member with ⟨_, event, _, split, begun⟩
  rcases Cache.Traffic.eq_get_of_fetch_mem_step _ begun with ⟨now, rfl⟩
  have used : Cache.Traffic.Event.get job now registry ∈ call.uses access := by simp [split]
  exact ⟨now, registry, Call.eq_asked_of_get_mem_uses used, same⟩

/-- When a fetch fails, the list that was there when it began is the answer, and no list changes. -/
theorem step_failed (linked : Linked access work traffic) {job : ι} {source : Access}
    {registry : Registry} {previous : Option (Listing registry)}
    {goOn : Except Failure (Listing registry) → Activity Reading}
    (waiting : work.jobs.find? job = some (.listing source registry previous goOn)) (now : Moment)
    {reply : Reply} {cause : Failure}
    (failure : registry.ofReply (source.url registry.endpoint) reply = .error cause) :
    (work.step (Call.replied job now reply).event).1 =
        [.answer job (Reading.ofResult registry (previous.elim (.error cause) .ok))] ∧
      (work.next (Call.replied job now reply).event).store.lists = work.store.lists := by
  rw [linked.waiting, Option.bind_eq_some_iff] at waiting
  rcases waiting with ⟨fetch, found, shape⟩
  cases access with
  | none => cases shape
  | some connected =>
    cases shape
    have followed := linked.follows (.replied job now reply)
    refine ⟨?_, ?_⟩
    · rw [followed.1]
      rcases fetch with ⟨key, _ | entry⟩ <;>
        simp [Call.uses, Call.shown, Cache.Traffic.effects, Cache.Traffic.step, found, failure,
          Cache.settle, Cache.Outcome.result]
    · rw [followed.2.lists, linked.lists]
      refine (Cache.Traffic.change_next _ _).cache_of_failed ?_
      intro other value waits
      cases found.symm.trans waits
      simp [failure]

/-- Floors and labels are never answered with a failure. -/
theorem exists_ok_of_answer_mem_step (linked : Linked access work traffic) {call : Call ι} {job : ι}
    {registry : Registry} (optional : registry = .floors ∨ registry = .labels)
    {result : Except Failure (List registry.Item)}
    (answered : .answer job ⟨registry, result⟩ ∈ (work.step call.event).1) :
    ∃ items, result = .ok items := by
  rw [(linked.follows call).1, List.mem_flatMap] at answered
  rcases answered with ⟨effect, _, shown⟩
  rcases eq_answer_of_answer_mem_shown shown with ⟨other, outcome, rfl, same⟩
  obtain rfl : registry = other := by
    rw [← Reading.fst_ofResult other outcome.result, ← same]
  rcases Reading.exists_ok_of_optional optional outcome.result with ⟨items, fine⟩
  rw [fine] at same
  exact ⟨items, by simpa using same⟩

end Linked

theorem listsServeLatest (access : Option Access) (timeToLive : Moment) (calls : List (Call ι)) :
    ListsServeLatest access timeToLive calls
      ((new access timeToLive).after (calls.map Call.event)) := by
  have linked := linked_after access timeToLive calls
  have lives := Cache.Traffic.timeToLive_after
    (.start timeToLive : Cache.Traffic ι Moment Registry Items) (calls.flatMap (Call.uses access))
  exact {
    lists := by
      intro registry entry
      rw [linked.lists]
      exact Cache.Traffic.find?_after_iff (V := Items) timeToLive _ registry entry
    served := by
      intro job now registry entry found young
      rw [linked.lists] at found
      exact linked.step_fresh job
        ((Cache.fresh?_eq_some_iff _ _ _ _).mpr ⟨found, lives ▸ young⟩)
    requested := by
      rintro source job now registry rfl old
      rw [linked.lists] at old
      exact linked.step_missing job ((Cache.fresh?_eq_none_iff _ _ _).mpr (lives ▸ old))
    requestedOnce := fun _ _ _ _ => linked.eq_asked_of_send_mem_step
    failed := fun _ now _ _ _ _ _ _ waiting => linked.step_failed waiting now
    dropped := fun _ => rfl
    optional := fun _ _ _ _ optional answered =>
      linked.exists_ok_of_answer_mem_step optional answered }

/-- Of a cache, and of the six lists that a session keeps in one: whatever overlaps, an entry is the
value and the time of the last fetch of its key that has ended well since everything was dropped; a
get fetches, once, if and only if there is no entry that is young enough, and is answered with the
entry otherwise; and what fails or is broken off changes nothing. -/
theorem cache_serves_what_was_fetched_last :
    (∀ {ι τ κ : Type} {V : κ → Type} {ε : Type} [DecidableEq ι] [DecidableEq κ] [Sub τ] [LT τ]
      [DecidableLT τ] (timeToLive : τ) (history : List (Cache.Traffic.Event ι τ κ V ε)),
      Cache.Traffic.ServesLatest timeToLive history
        ((Cache.Traffic.start timeToLive).after history)) ∧
    ∀ {ι : Type} [DecidableEq ι] (access : Option Access) (timeToLive : Moment)
      (calls : List (Call ι)), ListsServeLatest access timeToLive calls
        ((new access timeToLive).after (calls.map Call.event)) :=
  ⟨fun timeToLive history => Cache.Traffic.servesLatest timeToLive history,
    fun access timeToLive calls => listsServeLatest access timeToLive calls⟩

end Work

end HomeConfig
