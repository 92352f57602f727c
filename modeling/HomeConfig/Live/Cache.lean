/-!
# A cache that prefers old values to none

Every value is kept with the time at which it was fetched.  A value younger than the time to live
is served without a fetch.  Otherwise it is fetched again; when that fails, the value that was
there when the fetch began is served, however old it is.  Only a key that had no value then lets
the failure through.

A fetch takes time, and others may begin and end meanwhile.  So a get has two halves: `fresh?`
decides whether to fetch, `settle` ends a fetch that began with a given previous entry.  `get` puts
them together for a fetch during which nothing else happens.

Every stored entry has a serial number of its own, so two entries with one number hold one value.
-/

namespace HomeConfig

/-- A fetched value. -/
structure Cache.Entry (τ α : Type) where
  value : α
  fetchedAt : τ
  serial : Nat

/-- Values of several kinds, each under a key that tells its kind. -/
structure Cache (τ κ : Type) (V : κ → Type) where
  timeToLive : τ
  entries : List ((key : κ) × Cache.Entry τ (V key))
  /-- How many entries have been stored. -/
  stored : Nat

namespace Cache

variable {τ κ : Type} {V : κ → Type}

/-- A cache that holds nothing. -/
def empty (timeToLive : τ) : Cache τ κ V :=
  ⟨timeToLive, [], 0⟩

section Keys

variable [DecidableEq κ]

/-- The entry of a key in a list. -/
def lookup (key : κ) : List ((key : κ) × Entry τ (V key)) → Option (Entry τ (V key))
  | [] => none
  | ⟨other, entry⟩ :: rest => if same : other = key then some (same ▸ entry) else lookup key rest

/-- Set the entry of a key in a list. -/
def assign (key : κ) (entry : Entry τ (V key)) :
    List ((key : κ) × Entry τ (V key)) → List ((key : κ) × Entry τ (V key))
  | [] => [⟨key, entry⟩]
  | ⟨other, old⟩ :: rest =>
    if other = key then ⟨key, entry⟩ :: rest else ⟨other, old⟩ :: assign key entry rest

theorem lookup_assign_self (key : κ) (entry : Entry τ (V key))
    (entries : List ((key : κ) × Entry τ (V key))) :
    lookup key (assign key entry entries) = some entry := by
  induction entries with
  | nil => simp [assign, lookup]
  | cons head rest ih =>
    obtain ⟨other, old⟩ := head
    by_cases same : other = key
    · simp [assign, lookup, same]
    · simp [assign, lookup, same, ih]

theorem lookup_assign_of_ne {key other : κ} (different : other ≠ key) (entry : Entry τ (V key))
    (entries : List ((key : κ) × Entry τ (V key))) :
    lookup other (assign key entry entries) = lookup other entries := by
  induction entries with
  | nil => simp [assign, lookup, Ne.symm different]
  | cons head rest ih =>
    obtain ⟨name, old⟩ := head
    by_cases same : name = key
    · subst same
      simp [assign, lookup, Ne.symm different]
    · by_cases here : name = other
      · subst here
        simp [assign, lookup, same]
      · simp [assign, lookup, same, here, ih]

/-- The entry of a key. -/
def find? (cache : Cache τ κ V) (key : κ) : Option (Entry τ (V key)) :=
  lookup key cache.entries

/-- Store a value that was fetched at a given time. -/
def store (cache : Cache τ κ V) (now : τ) (key : κ) (value : V key) :
    Entry τ (V key) × Cache τ κ V :=
  let entry : Entry τ (V key) := ⟨value, now, cache.stored⟩
  (entry, { cache with
    entries := assign key entry cache.entries
    stored := cache.stored + 1 })

theorem find?_store_self (cache : Cache τ κ V) (now : τ) (key : κ) (value : V key) :
    (cache.store now key value).2.find? key = some (cache.store now key value).1 :=
  lookup_assign_self _ _ _

theorem find?_store_of_ne (cache : Cache τ κ V) (now : τ) {key other : κ}
    (different : other ≠ key) (value : V key) :
    (cache.store now key value).2.find? other = cache.find? other :=
  lookup_assign_of_ne different _ _

/-- Drop every entry. -/
def invalidate (cache : Cache τ κ V) : Cache τ κ V :=
  { cache with entries := [] }

theorem find?_invalidate (cache : Cache τ κ V) (key : κ) : cache.invalidate.find? key = none :=
  rfl

/-- How a get ended. -/
inductive Outcome (τ α ε : Type)
  /-- The value was there and young enough. -/
  | fresh (entry : Entry τ α)
  /-- The value was fetched and stored. -/
  | fetched (entry : Entry τ α)
  /-- The fetch failed and the previous value is served. -/
  | stale (entry : Entry τ α) (cause : ε)
  /-- The fetch failed and there was no previous value. -/
  | failed (cause : ε)

namespace Outcome

variable {α ε : Type}

/-- What the one who asked gets. -/
def result : Outcome τ α ε → Except ε (Entry τ α)
  | fresh entry => .ok entry
  | fetched entry => .ok entry
  | stale entry _ => .ok entry
  | failed cause => .error cause

/-- Whether there was a fetch. -/
def hasFetched : Outcome τ α ε → Bool
  | fresh _ => false
  | _ => true

end Outcome

/-- End a fetch that began when `previous` was the entry of its key. -/
def settle {ε : Type} (cache : Cache τ κ V) (now : τ) (key : κ)
    (previous : Option (Entry τ (V key))) :
    Except ε (V key) → Outcome τ (V key) ε × Cache τ κ V
  | .ok value =>
    let (entry, cache) := cache.store now key value
    (.fetched entry, cache)
  | .error cause =>
    match previous with
    | some entry => (.stale entry cause, cache)
    | none => (.failed cause, cache)

theorem settle_error {ε : Type} (cache : Cache τ κ V) (now : τ) (key : κ)
    (previous : Option (Entry τ (V key))) (cause : ε) :
    (cache.settle now key previous (.error cause)).2 = cache := by
  cases previous <;> rfl

/-- The entry of a key if it is younger than the time to live. -/
def fresh? [Sub τ] [LT τ] [DecidableLT τ] (cache : Cache τ κ V) (now : τ) (key : κ) :
    Option (Entry τ (V key)) :=
  (cache.find? key).filter fun entry => now - entry.fetchedAt < cache.timeToLive

/-- Get the value of a key at a time; a fetch, if one is needed, ends at a later time with a given
outcome. -/
def get [Sub τ] [LT τ] [DecidableLT τ] {ε : Type} (cache : Cache τ κ V) (now later : τ) (key : κ)
    (fetch : Except ε (V key)) : Outcome τ (V key) ε × Cache τ κ V :=
  match cache.fresh? now key with
  | some entry => (.fresh entry, cache)
  | none => cache.settle later key (cache.find? key) fetch

end Keys

end Cache

end HomeConfig
