import HomeConfig.Proofs.Cache.Barrier
import HomeConfig.Proofs.Live.Lists
import HomeConfig.Proofs.Session.Refresh

/-!
# Fetching everything anew

When the lists are dropped, the first question for a list sends a request, and whoever asks later is
answered with a list that was asked for later (`dropped_lists_are_fetched_anew`).  A refresh drops
the lists in the same way.

But a request that is under way when the lists are dropped is not dropped.  Its list is stored when
it comes in, and is served as if it were new (`areas_from_before_are_served`).
-/

namespace HomeConfig

/-- An answer that is no failure is a list with its entry, or stands for floors or labels that cannot
be had. -/
theorem Reading.of_ofResult_eq_ok {registry : Registry} {result : Except Failure (Listing registry)}
    {items : List registry.Item} (fine : Reading.ofResult registry result = ⟨registry, .ok items⟩) :
    (∃ entry, result = .ok entry ∧ entry.value = items) ∨
      ((registry = .floors ∨ registry = .labels) ∧ items = []) := by
  cases result with
  | ok entry =>
    refine Or.inl ⟨entry, rfl, ?_⟩
    cases registry <;> simpa [Reading.ofResult, Except.map] using fine
  | error cause =>
    cases registry with
    | floors | labels => exact Or.inr ⟨by simp, by simpa [Reading.ofResult] using fine⟩
    | states | services | areas | devices => simp [Reading.ofResult, Except.map] at fine

namespace Work

variable {ι : Type}

theorem get_mem_uses (access : Option Access) (job : ι) (now : Moment) (registry : Registry) :
    .get job now registry ∈ (Call.asked job now registry).uses access := by
  cases access <;> simp [Call.uses]

theorem flatMap_uses_invalidated (access : Option Access) (before : List (Call ι)) :
    (before ++ [Call.invalidated]).flatMap (Call.uses access) =
      before.flatMap (Call.uses access) ++ [Cache.Traffic.Event.invalidated] := by
  cases access <;> simp [Call.uses]

variable [DecidableEq ι]

/-- A question that is asked after everything was dropped is answered with a list that has been
fetched since. -/
theorem fetchedSince_of_answer {access : Option Access} {timeToLive : Moment}
    {dropped later : List (Cache.Traffic.Event ι Moment Registry Items Failure)} {registry : Registry}
    {call : Call ι} {job : ι} {outcome : Cache.Outcome Moment (List registry.Item) Failure}
    (abandons : Cache.Traffic.Abandons timeToLive registry (dropped ++ [.invalidated]) later)
    (made : ∃ now wanted, .get job now wanted ∈ later ++ call.uses access)
    (answered : .answer job registry outcome ∈ ((Cache.Traffic.start timeToLive).after
      (dropped ++ [.invalidated] ++ later)).effects (call.uses access))
    {entry : Listing registry} (result : outcome.result = .ok entry) :
    Cache.Traffic.FetchedSince timeToLive registry (dropped ++ [.invalidated])
      (later ++ call.uses access) entry := by
  cases call with
  | asked other now wanted =>
    cases access with
    | some source =>
      have here := Cache.Traffic.fetchedSince_of_answer_get abandons
        (by simpa [Call.uses, Cache.Traffic.effects] using answered) result
      exact here.append _
    | none =>
      -- Here one call is a get and the end of its fetch, and either of them may answer.
      rcases List.mem_append.mp answered with get | ended
      · exact (Cache.Traffic.fetchedSince_of_answer_get abandons get result).append _
      · have step : .answer job registry outcome ∈ (((Cache.Traffic.start timeToLive).after
            (dropped ++ [.invalidated] ++ (later ++ [.get other now wanted]))).step
              (.ended other now fun _ => .ok [])).1 := by
          simpa [Cache.Traffic.effects] using ended
        obtain rfl : other = job :=
          Option.some.inj (Cache.Traffic.name?_of_answer_mem_step _ step)
        have here := Cache.Traffic.fetchedSince_of_answer_ended (abandons.concat (by simp))
          ⟨now, wanted, by simp⟩ step result
        simpa [Call.uses] using here
  | replied other now reply =>
    cases access with
    | some source =>
      refine Cache.Traffic.fetchedSince_of_answer_ended abandons ?_
        (by simpa [Call.uses, Cache.Traffic.effects] using answered) result
      simpa [Call.uses] using made
    | none => cases answered
  | dropped other => cases access <;> cases answered
  | invalidated => cases access <;> cases answered

/-- Let the lists be dropped after some calls, and let no fetch of a list that is under way then end
well later.  Then there is no such list until it is asked for, the first question for it sends a
request, and whoever asks later is answered with a list that was asked for later.  A refresh drops
the lists, and sends requests for those that nearly every question needs. -/
theorem dropped_lists_are_fetched_anew (access : Option Access) (timeToLive : Moment)
    (before later : List (Call ι)) (registry : Registry)
    (abandons : Cache.Traffic.Abandons timeToLive registry
      (before.flatMap (Call.uses access) ++ [.invalidated]) (later.flatMap (Call.uses access))) :
    let work := (new access timeToLive).after ((before ++ [Call.invalidated] ++ later).map Call.event)
    ((∀ job now, .asked job now registry ∉ later) →
      work.store.lists.find? registry = none ∧
      ∀ source job now, access = some source →
        (work.step (Call.asked job now registry).event).1 = [.send job source registry.endpoint]) ∧
    (∀ call job items, (∃ now wanted, .asked job now wanted ∈ later ++ [call]) →
      .answer job ⟨registry, .ok items⟩ ∈ (work.step call.event).1 →
      (∃ entry, entry.value = items ∧ Cache.Traffic.FetchedSince timeToLive registry
        (before.flatMap (Call.uses access) ++ [.invalidated])
        ((later ++ [call]).flatMap (Call.uses access)) entry) ∨
      ((registry = .floors ∨ registry = .labels) ∧ items = [])) ∧
    ∀ (session : Session) (now : Moment) (tree : FileTree) (number : Nat),
      (∀ other, (session.asked now tree number .refresh).2.store.lists.find? other = none) ∧
      ∀ source place other, session.store.access = some source →
        WarmUp.registries[place]? = some other →
        .send (.warmUp number place) source other.endpoint ∈
          (session.asked now tree number .refresh).1 := by
  intro work
  have linked : Linked access work _ :=
    linked_after access timeToLive (before ++ [.invalidated] ++ later)
  rw [List.flatMap_append, flatMap_uses_invalidated] at linked
  refine ⟨fun first => ?_, fun call job items asked answered => ?_, Session.asked_refresh⟩
  · have missing : work.store.lists.find? registry = none := by
      rw [linked.lists]
      refine Cache.Traffic.find?_eq_none_of_dropped abandons fun job now used => ?_
      rcases List.mem_flatMap.mp used with ⟨call, member, get⟩
      rw [Call.eq_asked_of_get_mem_uses get] at member
      exact first job now member
    refine ⟨missing, ?_⟩
    rintro source job now rfl
    refine linked.step_missing job ((Cache.fresh?_eq_none_iff _ _ _).mpr ?_)
    rw [← linked.lists, missing]
    nofun
  · rw [(linked.follows call).1, List.mem_flatMap] at answered
    rcases answered with ⟨effect, member, shown⟩
    rcases eq_answer_of_answer_mem_shown shown with ⟨other, outcome, rfl, same⟩
    obtain rfl : registry = other := by
      rw [← Reading.fst_ofResult other outcome.result, ← same]
    rcases Reading.of_ofResult_eq_ok same.symm with ⟨entry, result, value⟩ | fallback
    · refine Or.inl ⟨entry, value, ?_⟩
      rcases asked with ⟨now, wanted, asked⟩
      have made : .get job now wanted ∈ (later ++ [call]).flatMap (Call.uses access) :=
        List.mem_flatMap.mpr ⟨_, asked, get_mem_uses access job now wanted⟩
      rw [List.flatMap_append, List.flatMap_singleton] at made ⊢
      exact fetchedSince_of_answer abandons ⟨now, wanted, made⟩ member result
    · exact Or.inr fallback

/-- Where the lists of the following two runs come from. -/
def server : Access :=
  ⟨"http://home:8123/api", "token", 10⟩

/-- The areas are asked for, the lists are dropped, and then the reply is a failure. -/
def failedMeanwhile : List (Call Nat) :=
  [.asked 1 0 .areas] ++ [.invalidated] ++ [.replied 1 1 (.ok ⟨500, none, ""⟩)]

/-- After `failedMeanwhile` the areas are asked for again. -/
theorem areas_are_asked_for_again :
    (((new (some server) 60).after (failedMeanwhile.map Call.event)).step
      (Call.asked 2 2 .areas).event).1 = [.send 2 server Registry.areas.endpoint] := by
  refine ((dropped_lists_are_fetched_anew (some server) 60 [.asked 1 0 .areas]
    [.replied 1 1 (.ok ⟨500, none, ""⟩)] .areas ?_).1 (by simp)).2 server 2 2 rfl
  intro name since waits front now outcome rest value split quiet fetched
  have failure : (Registry.areas.ofReply (server.url Registry.areas.endpoint)
      (.ok ⟨500, none, ""⟩)).isOk = false := by
    decide +kernel
  cases front with
  | nil =>
    cases split
    simp only at fetched
    rw [fetched] at failure
    cases failure
  | cons first front => simp [Call.uses] at split

/-- A reply with one area. -/
def attic : Reply :=
  .ok ⟨200, none, "[\x7b\"id\": \"attic\", \"name\": \"Attic\"\x7d]"⟩

theorem ofReply_attic : Registry.areas.ofReply (server.url Registry.areas.endpoint) attic =
    .ok [(⟨"attic", "Attic"⟩ : Place)] :=
  eq_ok_of_toOption (α := List Place) (by decide +kernel)

/-- The areas are asked for, the lists are dropped, and then the areas come in. -/
def fetchedMeanwhile : List (Call Nat) :=
  [.asked 1 0 .areas] ++ [.invalidated] ++ [.replied 1 1 attic]

/-- Since the lists were dropped in `fetchedMeanwhile` nobody has asked for the areas, and still the
next one who does is answered at once, with the areas that were asked for before. -/
theorem areas_from_before_are_served :
    (((new (some server) 60).after (fetchedMeanwhile.map Call.event)).step
      (Call.asked 2 2 .areas).event).1 = [.answer 2 ⟨.areas, .ok [(⟨"attic", "Attic"⟩ : Place)]⟩] := by
  have linked := linked_after (some server) 60 fetchedMeanwhile
  have found : ((Cache.Traffic.start 60).after
      (fetchedMeanwhile.flatMap (Call.uses (some server)))).cache.find? .areas =
        some ⟨[(⟨"attic", "Attic"⟩ : Place)], 1, 0⟩ := by
    simp [fetchedMeanwhile, Call.uses, Cache.Traffic.start, Cache.Traffic.next, Cache.Traffic.step,
      Cache.fresh?, Cache.find?, Cache.empty, Cache.lookup, Cache.invalidate, Cache.settle,
      ofReply_attic, Cache.store, Cache.assign]
  refine linked.step_fresh 2 ((Cache.fresh?_eq_some_iff _ _ _ _).mpr ⟨found, ?_⟩)
  decide +kernel

end Work

end HomeConfig
