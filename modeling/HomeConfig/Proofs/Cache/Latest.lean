import HomeConfig.Proofs.Cache.Run
import Mathlib.Data.List.Induction

/-!
# What a cache holds

A cache forgets how its entries came to be there.  Here they are traced back to the run: the entry of
a key is what the last fetch of that key brought that has ended well, unless everything was dropped
since (`find?_after_iff`).  A fetch counts when it ends, not when it begins, and whatever else is
under way does not matter.

The fetches that are under way are traced back in the same way (`fetches_after_iff`): a get waits
from the moment when it finds no entry that is young enough until its own next event.
-/

namespace HomeConfig

namespace Cache

variable {ι τ κ : Type} {V : κ → Type} {ε : Type}
variable [DecidableEq ι] [DecidableEq κ] [Sub τ] [LT τ] [DecidableLT τ]

theorem fresh?_eq_none_iff (cache : Cache τ κ V) (now : τ) (key : κ) :
    cache.fresh? now key = none ↔
      ∀ entry, cache.find? key = some entry → ¬now - entry.fetchedAt < cache.timeToLive := by
  simp [fresh?, Option.filter_eq_none_iff]

theorem fresh?_eq_some_iff (cache : Cache τ κ V) (now : τ) (key : κ) (entry : Entry τ (V key)) :
    cache.fresh? now key = some entry ↔
      cache.find? key = some entry ∧ now - entry.fetchedAt < cache.timeToLive := by
  simp [fresh?, Option.filter_eq_some_iff]

/-- An event of a run is the last one, or it stands before the last one. -/
theorem split_concat {α : Type} {history earlier later : List α} {last event : α}
    (shape : history ++ [last] = earlier ++ event :: later) :
    (history = earlier ∧ last = event ∧ later = []) ∨
      ∃ between, history = earlier ++ event :: between ∧ later = between ++ [last] := by
  rcases List.eq_nil_or_concat later with rfl | ⟨between, other, rfl⟩
  · have parts := List.append_inj' shape rfl
    exact Or.inl ⟨parts.1, (List.cons.inj parts.2).1, rfl⟩
  · have parts : history = earlier ++ event :: between ∧ [last] = [other] :=
      List.append_inj' (by simpa using shape) rfl
    refine Or.inr ⟨between, parts.1, ?_⟩
    rw [parts.2, List.concat_eq_append]

namespace Traffic

/-! ## The fetches that are under way -/

/-- After `history`, the get that was made under a name after `earlier` waits for its fetch of a
key. -/
def Awaits (timeToLive : τ) (name : ι) (key : κ) (earlier history : List (Event ι τ κ V ε)) : Prop :=
  ∃ now later, history = earlier ++ .get name now key :: later ∧
    ((start timeToLive : Traffic ι τ κ V).after earlier).cache.fresh? now key = none ∧
    ∀ event ∈ later, event.name? ≠ some name

theorem not_awaits_nil (timeToLive : τ) (name : ι) (key : κ)
    (earlier : List (Event ι τ κ V ε)) : ¬Awaits timeToLive name key earlier [] := by
  rintro ⟨now, later, shape, _⟩
  simp at shape

/-- The last event is the get itself, or it leaves the get waiting. -/
theorem awaits_concat_iff (timeToLive : τ) (name : ι) (key : κ)
    (earlier history : List (Event ι τ κ V ε)) (event : Event ι τ κ V ε) :
    Awaits timeToLive name key earlier (history ++ [event]) ↔
      (earlier = history ∧ ∃ now, event = .get name now key ∧
        ((start timeToLive : Traffic ι τ κ V).after history).cache.fresh? now key = none) ∨
      (event.name? ≠ some name ∧ Awaits timeToLive name key earlier history) := by
  constructor
  · rintro ⟨now, later, shape, missing, others⟩
    rcases split_concat shape with ⟨rfl, rfl, _⟩ | ⟨between, rfl, rfl⟩
    · exact Or.inl ⟨rfl, now, rfl, missing⟩
    · refine Or.inr ⟨others event (by simp), now, between, rfl, missing, ?_⟩
      exact fun other member => others other (by simp [member])
  · rintro (⟨rfl, now, rfl, missing⟩ | ⟨apart, now, later, rfl, missing, others⟩)
    · exact ⟨now, [], rfl, missing, by simp⟩
    · refine ⟨now, later ++ [event], by simp, missing, ?_⟩
      intro other member
      rcases List.mem_append.mp member with old | new
      · exact others other old
      · rwa [List.mem_singleton.mp new]

/-- Only the events of a get concern its fetch. -/
theorem Change.find?_fetches_of_ne {traffic result : Traffic ι τ κ V} {event : Event ι τ κ V ε}
    (change : Change traffic event result) {name : ι} (apart : event.name? ≠ some name) :
    result.fetches.find? name = traffic.fetches.find? name := by
  cases change with
  | begun _ => exact Table.find?_insert_of_ne _ (fun same => apart (congrArg some same.symm)) _
  | served _ | stored _ _ | failed _ _ | dropped _ =>
    exact Table.find?_erase_of_ne _ fun same => apart (congrArg some same.symm)
  | cleared | endedLate _ _ _ => rfl

/-- Of its own events only the get itself leaves a get waiting, and only if it finds no entry that
is young enough. -/
theorem Change.find?_fetches_own {traffic result : Traffic ι τ κ V} {event : Event ι τ κ V ε}
    (change : Change traffic event result) {name : ι} (own : event.name? = some name)
    (fetch : Fetch τ κ V) :
    result.fetches.find? name = some fetch ↔
      ∃ now, event = .get name now fetch.key ∧ traffic.cache.fresh? now fetch.key = none ∧
        traffic.cache.find? fetch.key = fetch.previous := by
  cases change with
  | served fresh =>
    obtain rfl := Option.some.inj own
    rw [Table.find?_erase_self]
    constructor
    · intro found
      cases found
    · rintro ⟨now, shape, missing, _⟩
      cases shape
      cases fresh.symm.trans missing
  | begun missing =>
    obtain rfl := Option.some.inj own
    rw [Table.find?_insert_self]
    constructor
    · intro found
      obtain rfl := Option.some.inj found
      exact ⟨_, rfl, missing, rfl⟩
    · rintro ⟨now, shape, _, previous⟩
      rcases fetch with ⟨key, entry⟩
      cases shape
      rw [previous]
  | stored _ _ | failed _ _ | dropped _ =>
    obtain rfl := Option.some.inj own
    rw [Table.find?_erase_self]
    constructor
    · intro found
      cases found
    · rintro ⟨now, shape, _⟩
      cases shape
  | endedLate missing _ _ =>
    obtain rfl := Option.some.inj own
    rw [missing]
    constructor
    · intro found
      cases found
    · rintro ⟨now, shape, _⟩
      cases shape
  | cleared => cases own

/-- The table of fetches is a function of the run. -/
theorem fetches_after_iff (timeToLive : τ) (history : List (Event ι τ κ V ε)) (name : ι)
    (fetch : Fetch τ κ V) :
    ((start timeToLive).after history).fetches.find? name = some fetch ↔
      ∃ earlier, Awaits timeToLive name fetch.key earlier history ∧
        ((start timeToLive).after earlier).cache.find? fetch.key = fetch.previous := by
  induction history using List.reverseRecOn with
  | nil =>
    constructor
    · intro found
      simp [start] at found
    · rintro ⟨earlier, waits, _⟩
      exact absurd waits (not_awaits_nil timeToLive name fetch.key earlier)
  | append_singleton history event inductionHypothesis =>
    have change := change_next ((start timeToLive : Traffic ι τ κ V).after history) event
    rw [after_append, after_cons, after_nil]
    -- An event of the get itself decides alone; any other one leaves both sides as they were.
    by_cases own : event.name? = some name
    · rw [change.find?_fetches_own own]
      constructor
      · rintro ⟨now, rfl, missing, previous⟩
        exact ⟨history,
          (awaits_concat_iff _ _ _ _ _ _).mpr (Or.inl ⟨rfl, now, rfl, missing⟩), previous⟩
      · rintro ⟨earlier, waits, previous⟩
        rcases (awaits_concat_iff _ _ _ _ _ _).mp waits with ⟨rfl, now, shape, missing⟩ | ⟨apart, _⟩
        · exact ⟨now, shape, missing, previous⟩
        · exact absurd own apart
    · rw [change.find?_fetches_of_ne own, inductionHypothesis]
      constructor
      · rintro ⟨earlier, waits, previous⟩
        exact ⟨earlier, (awaits_concat_iff _ _ _ _ _ _).mpr (Or.inr ⟨own, waits⟩), previous⟩
      · rintro ⟨earlier, waits, previous⟩
        rcases (awaits_concat_iff _ _ _ _ _ _).mp waits with ⟨_, now, rfl, _⟩ | ⟨_, waited⟩
        · exact absurd rfl own
        · exact ⟨earlier, waited, previous⟩

theorem Awaits.find?_fetches {timeToLive : τ} {name : ι} {key : κ}
    {since history : List (Event ι τ κ V ε)} (waits : Awaits timeToLive name key since history) :
    ((start timeToLive : Traffic ι τ κ V).after history).fetches.find? name =
      some ⟨key, ((start timeToLive).after since).cache.find? key⟩ :=
  (fetches_after_iff timeToLive history name
    ⟨key, ((start timeToLive).after since).cache.find? key⟩).mpr ⟨since, waits, rfl⟩

/-! ## The entries -/

/-- An event ends a fetch of a key with the value that is stored as an entry. -/
def Fetches (traffic : Traffic ι τ κ V) (event : Event ι τ κ V ε) (key : κ)
    (entry : Entry τ (V key)) : Prop :=
  ∃ name outcome previous, event = .ended name entry.fetchedAt outcome ∧
    traffic.fetches.find? name = some ⟨key, previous⟩ ∧ outcome key = .ok entry.value ∧
    entry.serial = traffic.cache.stored

/-- An event brings the entry of a key, or it leaves the entry there. -/
theorem Change.find?_cache_iff {traffic result : Traffic ι τ κ V} {event : Event ι τ κ V ε}
    (change : Change traffic event result) (key : κ) (entry : Entry τ (V key)) :
    result.cache.find? key = some entry ↔
      traffic.Fetches event key entry ∨
        (event ≠ .invalidated ∧ (∀ other, ¬traffic.Fetches event key other) ∧
          traffic.cache.find? key = some entry) := by
  cases change with
  | served _ | begun _ | dropped _ => simp [Fetches]
  | cleared => simp [Fetches, find?_invalidate]
  | @endedLate name missing now outcome =>
    have nothing : ∀ other, ¬traffic.Fetches (.ended name now outcome) key other := by
      rintro other ⟨_, _, previous, shape, found, _⟩
      cases shape
      cases missing.symm.trans found
    simp [nothing]
  | @failed name now outcome fetch cause found failure =>
    have nothing : ∀ other, ¬traffic.Fetches (.ended name now outcome) key other := by
      rintro other ⟨_, _, previous, shape, waits, fetched, _⟩
      cases shape
      cases found.symm.trans waits
      cases failure.symm.trans fetched
    simp [nothing]
  | @stored name now outcome fetch value found fetched =>
    -- The key of the fetch has the new entry, whatever it had before; other keys keep theirs.
    rcases fetch with ⟨other, previous⟩
    by_cases same : other = key
    · subst same
      have brought : traffic.Fetches (.ended name now outcome) other
          (traffic.cache.store now other value).1 :=
        ⟨name, outcome, previous, rfl, found, fetched, rfl⟩
      simp only [find?_store_self]
      constructor
      · intro stored
        rw [← Option.some.inj stored]
        exact Or.inl brought
      · rintro (⟨_, _, _, shape, _, equal, serial⟩ | ⟨_, nothing, _⟩)
        · rcases entry with ⟨_, _, _⟩
          cases shape
          cases fetched.symm.trans equal
          obtain rfl : _ = traffic.cache.stored := serial
          rfl
        · exact absurd brought (nothing _)
    · have nothing : ∀ entry, ¬traffic.Fetches (.ended name now outcome) key entry := by
        rintro entry ⟨_, _, _, shape, waits, _⟩
        cases shape
        cases found.symm.trans waits
        exact same rfl
      have kept := find?_store_of_ne traffic.cache now (Ne.symm same) value
      simp [nothing, kept]

/-- An event that neither brings an entry of a key nor drops everything leaves the key as it is. -/
theorem Change.find?_cache_of_quiet {traffic result : Traffic ι τ κ V} {event : Event ι τ κ V ε}
    (change : Change traffic event result) {key : κ} (kept : event ≠ .invalidated)
    (nothing : ∀ other, ¬traffic.Fetches event key other) :
    result.cache.find? key = traffic.cache.find? key := by
  apply Option.ext
  intro entry
  rw [change.find?_cache_iff]
  constructor
  · rintro (fetched | ⟨_, _, found⟩)
    · exact absurd fetched (nothing entry)
    · exact found
  · exact fun found => Or.inr ⟨kept, nothing, found⟩

/-- The fetch that a get of a key began after `since` ends, by an event after `earlier`, with the
value that is stored as an entry. -/
def Brings (timeToLive : τ) (since earlier : List (Event ι τ κ V ε)) (event : Event ι τ κ V ε)
    (key : κ) (entry : Entry τ (V key)) : Prop :=
  ∃ name outcome, event = .ended name entry.fetchedAt outcome ∧
    Awaits timeToLive name key since earlier ∧ outcome key = .ok entry.value ∧
    entry.serial = ((start timeToLive : Traffic ι τ κ V).after earlier).cache.stored

/-- Of all fetches of a key that have ended well in a run, the last one brought an entry, and nothing
has been dropped since. -/
def IsLatest (timeToLive : τ) (key : κ) (entry : Entry τ (V key))
    (history : List (Event ι τ κ V ε)) : Prop :=
  ∃ since earlier event later, history = earlier ++ event :: later ∧
    Brings timeToLive since earlier event key entry ∧
    ∀ between next rest, later = between ++ next :: rest →
      next ≠ .invalidated ∧
        ∀ other brought, ¬Brings timeToLive other (earlier ++ event :: between) next key brought

theorem fetches_iff_brings (timeToLive : τ) (history : List (Event ι τ κ V ε))
    (event : Event ι τ κ V ε) (key : κ) (entry : Entry τ (V key)) :
    ((start timeToLive : Traffic ι τ κ V).after history).Fetches event key entry ↔
      ∃ since, Brings timeToLive since history event key entry := by
  constructor
  · rintro ⟨name, outcome, previous, shape, found, fetched, serial⟩
    rcases (fetches_after_iff timeToLive history name ⟨key, previous⟩).mp found with
      ⟨since, waits, _⟩
    exact ⟨since, name, outcome, shape, waits, fetched, serial⟩
  · rintro ⟨since, name, outcome, shape, waits, fetched, serial⟩
    exact ⟨name, outcome, _, shape, waits.find?_fetches, fetched, serial⟩

theorem not_isLatest_nil (timeToLive : τ) (key : κ) (entry : Entry τ (V key)) :
    ¬IsLatest timeToLive key entry ([] : List (Event ι τ κ V ε)) := by
  rintro ⟨since, earlier, event, later, shape, _⟩
  simp at shape

/-- The last event brings the entry, or leaves it the latest one. -/
theorem isLatest_concat_iff (timeToLive : τ) (key : κ) (entry : Entry τ (V key))
    (history : List (Event ι τ κ V ε)) (event : Event ι τ κ V ε) :
    IsLatest timeToLive key entry (history ++ [event]) ↔
      (∃ since, Brings timeToLive since history event key entry) ∨
        (event ≠ .invalidated ∧ (∀ since other, ¬Brings timeToLive since history event key other) ∧
          IsLatest timeToLive key entry history) := by
  constructor
  · rintro ⟨since, earlier, bringing, later, shape, brings, quiet⟩
    rcases split_concat shape with ⟨rfl, rfl, _⟩ | ⟨between, rfl, rfl⟩
    · exact Or.inl ⟨since, brings⟩
    · -- The last event is among those that came after the entry, so it is quiet as well.
      have now := quiet between event [] rfl
      refine Or.inr ⟨now.1, now.2, since, earlier, bringing, between, rfl, brings, ?_⟩
      intro front next rest split
      exact quiet front next (rest ++ [event]) (by simp [split])
  · rintro (⟨since, brings⟩ | ⟨kept, nothing, since, earlier, bringing, later, rfl, brings, quiet⟩)
    · exact ⟨since, history, event, [], rfl, brings, by simp⟩
    · refine ⟨since, earlier, bringing, later ++ [event], by simp, brings, ?_⟩
      intro between next rest split
      rcases split_concat split with ⟨rfl, rfl, _⟩ | ⟨front, rfl, _⟩
      · exact ⟨kept, nothing⟩
      · exact quiet between next front rfl

/-- The entry of a key is what the last fetch of the key brought, and there is none when no fetch
has ended well since everything was dropped. -/
theorem find?_after_iff (timeToLive : τ) (history : List (Event ι τ κ V ε)) (key : κ)
    (entry : Entry τ (V key)) :
    ((start timeToLive : Traffic ι τ κ V).after history).cache.find? key = some entry ↔
      IsLatest timeToLive key entry history := by
  induction history using List.reverseRecOn with
  | nil =>
    constructor
    · intro found
      cases found
    · intro latest
      exact absurd latest (not_isLatest_nil timeToLive key entry)
  | append_singleton history event inductionHypothesis =>
    have change := change_next ((start timeToLive : Traffic ι τ κ V).after history) event
    rw [isLatest_concat_iff, after_append, after_cons, after_nil, change.find?_cache_iff,
      fetches_iff_brings, inductionHypothesis]
    simp only [fetches_iff_brings, not_exists]
    rw [forall_comm]

end Traffic

end Cache

end HomeConfig
