import HomeConfig.Proofs.Cache.Latest

/-!
# What a cache serves

A get answers at once when the entry of its key is young enough, and begins one fetch otherwise.
Nothing else begins a fetch.  A fetch that fails or is broken off leaves every entry as it is, with
its time.  Together with `find?_after_iff`, which tells where the entries come from, this says
everything about a cache that one who asks can see, whatever overlaps; `ServesLatest` puts it
together.
-/

namespace HomeConfig

namespace Cache

variable {ι τ κ : Type} {V : κ → Type} {ε : Type}
variable [DecidableEq ι] [DecidableEq κ] [Sub τ] [LT τ] [DecidableLT τ]

namespace Traffic

variable (traffic : Traffic ι τ κ V)

theorem step_get_fresh (name : ι) {now : τ} {key : κ} {entry : Entry τ (V key)}
    (fresh : traffic.cache.fresh? now key = some entry) :
    (traffic.step (.get name now key : Event ι τ κ V ε)).1 = [.answer name key (.fresh entry)] := by
  simp only [step, fresh]

theorem step_get_missing (name : ι) {now : τ} {key : κ}
    (missing : traffic.cache.fresh? now key = none) :
    (traffic.step (.get name now key : Event ι τ κ V ε)).1 = [.fetch name key] := by
  simp only [step, missing]

/-- Only a get begins a fetch, and only one for its key. -/
theorem eq_get_of_fetch_mem_step {event : Event ι τ κ V ε} {name : ι} {key : κ}
    (fetched : .fetch name key ∈ (traffic.step event).1) : ∃ now, event = .get name now key := by
  cases event with
  | get other now wanted =>
    cases fresh : traffic.cache.fresh? now wanted with
    | some entry => simp [step_get_fresh traffic other fresh] at fetched
    | none =>
      rw [step_get_missing traffic other fresh, List.mem_singleton] at fetched
      cases fetched
      exact ⟨now, rfl⟩
  | ended other now outcome =>
    cases found : traffic.fetches.find? other <;> simp [step, found] at fetched
  | cancelled other => simp [step] at fetched
  | invalidated => simp [step] at fetched

/-- A fetch that fails changes no entry. -/
theorem Change.cache_of_failed {traffic result : Traffic ι τ κ V} {name : ι} {now : τ}
    {outcome : (key : κ) → Except ε (V key)}
    (change : Change traffic (.ended name now outcome) result)
    (failure : ∀ fetch value, traffic.fetches.find? name = some fetch →
      outcome fetch.key ≠ .ok value) :
    result.cache = traffic.cache := by
  cases change with
  | stored found fetched => exact absurd fetched (failure _ _ found)
  | failed _ _ => rfl
  | endedLate _ _ _ => rfl

/-- What one who asks sees of a traffic that some events have led to. -/
structure ServesLatest (timeToLive : τ) (history : List (Event ι τ κ V ε))
    (traffic : Traffic ι τ κ V) : Prop where
  /-- An entry is the value and the time of the last fetch of its key that has ended well. -/
  entries (key : κ) (entry : Entry τ (V key)) :
    traffic.cache.find? key = some entry ↔ IsLatest timeToLive key entry history
  served (name : ι) (now : τ) (key : κ) (entry : Entry τ (V key)) :
    traffic.cache.find? key = some entry → now - entry.fetchedAt < timeToLive →
      (traffic.step (.get name now key : Event ι τ κ V ε)).1 = [.answer name key (.fresh entry)]
  fetched (name : ι) (now : τ) (key : κ) :
    (∀ entry, traffic.cache.find? key = some entry → ¬now - entry.fetchedAt < timeToLive) →
      (traffic.step (.get name now key : Event ι τ κ V ε)).1 = [.fetch name key]
  fetchedOnce (event : Event ι τ κ V ε) (name : ι) (key : κ) :
    .fetch name key ∈ (traffic.step event).1 → ∃ now, event = .get name now key
  failed (name : ι) (now : τ) (outcome : (key : κ) → Except ε (V key)) :
    (∀ fetch value, traffic.fetches.find? name = some fetch → outcome fetch.key ≠ .ok value) →
      (traffic.next (.ended name now outcome)).cache = traffic.cache
  cancelled (name : ι) :
    (traffic.next (.cancelled name : Event ι τ κ V ε)).cache = traffic.cache

theorem servesLatest (timeToLive : τ) (history : List (Event ι τ κ V ε)) :
    ServesLatest timeToLive history ((start timeToLive).after history) where
  entries := find?_after_iff timeToLive history
  served := by
    intro name now key entry found young
    have lives := timeToLive_after (start timeToLive : Traffic ι τ κ V) history
    exact step_get_fresh _ name ((fresh?_eq_some_iff _ _ _ _).mpr ⟨found, lives ▸ young⟩)
  fetched := by
    intro name now key old
    have lives := timeToLive_after (start timeToLive : Traffic ι τ κ V) history
    exact step_get_missing _ name ((fresh?_eq_none_iff _ _ _).mpr (lives ▸ old))
  fetchedOnce := fun _ _ _ => eq_get_of_fetch_mem_step _
  failed := fun _ _ _ failure => (change_next _ _).cache_of_failed failure
  cancelled := fun _ => rfl

end Traffic

end Cache

end HomeConfig
