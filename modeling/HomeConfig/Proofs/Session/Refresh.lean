import HomeConfig.Editor.Session
import HomeConfig.Proofs.Live.Run

/-!
# Refreshing a session

When an editor asks for a refresh, the lists are dropped before any of them is asked for again.  So
the fetches that are begun then find no list, and all of them wait for a reply.
-/

namespace HomeConfig

namespace Session

/-- Fetches that begin when no list is there all wait for their lists. -/
theorem beginAll_parts (now : Moment) {source : Access} (registries : List Registry) {store : Store}
    (connected : store.access = some source) (nothing : ∀ registry, store.lists.find? registry = none) :
    (beginAll now (registries.map WarmUp.part) store).1 = registries.map (fun registry =>
        .listing source registry none fun answer => .finish (answer.map fun _ => ())) ∧
      (beginAll now (registries.map WarmUp.part) store).2.1.lists = store.lists := by
  induction registries generalizing store with
  | nil => exact ⟨rfl, rfl⟩
  | cons registry rest inductionHypothesis =>
    have begun : (WarmUp.part registry).advance now store =
        (.listing source registry none fun answer => .finish (answer.map fun _ => ()),
          store.connect, []) := by
      simp [WarmUp.part, Activity.advance, Cache.fresh?, nothing, connected]
    have others := @inductionHypothesis store.connect
      (by rw [Work.connect_access, connected]) (by simpa [Work.connect_lists] using nothing)
    rw [Work.connect_lists] at others
    simpa [beginAll, begun] using others

theorem lists_warmUp (session : Session) (now : Moment) (number : Nat) (answer : Answer)
    (nothing : ∀ registry, session.store.lists.find? registry = none) :
    (session.warmUp now number answer).2.store.lists = session.store.lists := by
  cases connected : session.store.access with
  | none =>
    have offline : session.store.isConnected = false := by simp [Store.isConnected, connected]
    simp [warmUp, offline]
  | some source =>
    have online : session.store.isConnected = true := by simp [Store.isConnected, connected]
    have begun := (beginAll_parts now WarmUp.registries connected nothing).2
    simpa [warmUp, online, gather, WarmUp.parts] using begun

theorem send_mem_warmUp (session : Session) (now : Moment) (number : Nat) (answer : Answer)
    (nothing : ∀ registry, session.store.lists.find? registry = none) {source : Access}
    (connected : session.store.access = some source) {place : Nat} {registry : Registry}
    (wanted : WarmUp.registries[place]? = some registry) :
    .send (.warmUp number place) source registry.endpoint ∈
      (session.warmUp now number answer).1 := by
  have online : session.store.isConnected = true := by simp [Store.isConnected, connected]
  have begun := (beginAll_parts now WarmUp.registries connected nothing).1
  simp only [warmUp, online, if_true]
  refine List.mem_append_left _ (List.mem_append_right _ ?_)
  refine List.mem_flatMap.mpr
    ⟨(.listing source registry none fun answer => .finish (answer.map fun _ => ()), place), ?_, ?_⟩
  · rw [WarmUp.parts, begun, List.mk_mem_zipIdx_iff_getElem?, List.getElem?_map, wanted]
    rfl
  · simp [Progress.request?]

/-- A refresh drops the lists, and fetches anew those that nearly every question needs. -/
theorem asked_refresh (session : Session) (now : Moment) (tree : FileTree) (number : Nat) :
    (∀ registry, (session.asked now tree number .refresh).2.store.lists.find? registry = none) ∧
      ∀ source place registry, session.store.access = some source →
        WarmUp.registries[place]? = some registry →
        .send (.warmUp number place) source registry.endpoint ∈
          (session.asked now tree number .refresh).1 := by
  have nothing := Cache.find?_invalidate session.store.lists
  refine ⟨fun registry => ?_, fun source place registry connected wanted => ?_⟩
  · rw [asked, lists_warmUp _ _ _ _ nothing]
    exact nothing registry
  · exact send_mem_warmUp { session with store := session.store.invalidate } now number _ nothing
      connected wanted

end Session

end HomeConfig
