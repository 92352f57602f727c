import HomeConfig.Live.Cache
import HomeConfig.Table

/-!
# Gets that overlap

A get that needs a fetch waits for it, and others begin and end meanwhile.  A `Traffic` is a cache
with the fetches that are under way.  Each of them stands under the name of the get that began it,
with the entry that was there then.  A fetch ends with a value, ends with a failure, or is broken
off; it may also never be heard of again.  A name that is taken again while its fetch is under way
breaks that fetch off.

A run is a list of events, each with the time at which it happens.  Nothing is asked of their order,
and nothing of the times.  `Change` says once what an event can do.
-/

namespace HomeConfig

namespace Cache

variable {ι τ κ : Type} {V : κ → Type} {ε : Type}

/-- A fetch that is under way: its key, and the entry of that key when it began. -/
structure Fetch (τ κ : Type) (V : κ → Type) where
  key : κ
  previous : Option (Entry τ (V key))

/-- A cache with the fetches that are under way. -/
structure Traffic (ι τ κ : Type) (V : κ → Type) where
  cache : Cache τ κ V
  fetches : Table ι (Fetch τ κ V)

namespace Traffic

/-- What can happen. -/
inductive Event (ι τ κ : Type) (V : κ → Type) (ε : Type)
  | get (name : ι) (now : τ) (key : κ)
  /-- The fetch of a get has ended; the outcome is told for whatever key the fetch is. -/
  | ended (name : ι) (now : τ) (outcome : (key : κ) → Except ε (V key))
  | cancelled (name : ι)
  | invalidated

/-- The get that an event belongs to. -/
def Event.name? : Event ι τ κ V ε → Option ι
  | get name _ _ => some name
  | ended name _ _ => some name
  | cancelled name => some name
  | invalidated => none

/-- What a get does to the world: it begins a fetch, or it ends. -/
inductive Effect (ι τ κ : Type) (V : κ → Type) (ε : Type)
  | fetch (name : ι) (key : κ)
  | answer (name : ι) (key : κ) (outcome : Outcome τ (V key) ε)

/-- An empty cache, and no fetch under way. -/
def start (timeToLive : τ) : Traffic ι τ κ V :=
  ⟨Cache.empty timeToLive, .empty⟩

variable [DecidableEq ι] [DecidableEq κ] [Sub τ] [LT τ] [DecidableLT τ]

/-- What an event does to the world, and the traffic afterwards. -/
def step (traffic : Traffic ι τ κ V) :
    Event ι τ κ V ε → List (Effect ι τ κ V ε) × Traffic ι τ κ V
  | .get name now key =>
    match traffic.cache.fresh? now key with
    | some entry =>
      ([.answer name key (.fresh entry)],
        { traffic with fetches := traffic.fetches.erase name })
    | none =>
      ([.fetch name key], { traffic with
        fetches := traffic.fetches.insert name ⟨key, traffic.cache.find? key⟩ })
  | .ended name now outcome =>
    match traffic.fetches.find? name with
    | some fetch =>
      let (result, cache) :=
        traffic.cache.settle now fetch.key fetch.previous (outcome fetch.key)
      ([.answer name fetch.key result], ⟨cache, traffic.fetches.erase name⟩)
    | none => ([], traffic)
  | .cancelled name => ([], { traffic with fetches := traffic.fetches.erase name })
  | .invalidated => ([], { traffic with cache := traffic.cache.invalidate })

def next (traffic : Traffic ι τ κ V) (event : Event ι τ κ V ε) : Traffic ι τ κ V :=
  (traffic.step event).2

/-- The traffic after some events, the first of them first. -/
def after (traffic : Traffic ι τ κ V) (events : List (Event ι τ κ V ε)) : Traffic ι τ κ V :=
  events.foldl next traffic

@[simp] theorem after_nil (traffic : Traffic ι τ κ V) :
    traffic.after ([] : List (Event ι τ κ V ε)) = traffic :=
  rfl

@[simp] theorem after_cons (traffic : Traffic ι τ κ V) (event : Event ι τ κ V ε)
    (later : List (Event ι τ κ V ε)) :
    traffic.after (event :: later) = (traffic.next event).after later :=
  rfl

@[simp] theorem after_append (traffic : Traffic ι τ κ V) (before later : List (Event ι τ κ V ε)) :
    traffic.after (before ++ later) = (traffic.after before).after later :=
  List.foldl_append

/-- What some events do to the world, in their order. -/
def effects : Traffic ι τ κ V → List (Event ι τ κ V ε) → List (Effect ι τ κ V ε)
  | _, [] => []
  | traffic, event :: later => (traffic.step event).1 ++ effects (traffic.next event) later

/-- Every effect is that of one of the events. -/
theorem exists_step_of_mem_effects {traffic : Traffic ι τ κ V} {events : List (Event ι τ κ V ε)}
    {effect : Effect ι τ κ V ε} (member : effect ∈ traffic.effects events) :
    ∃ earlier event later, events = earlier ++ event :: later ∧
      effect ∈ ((traffic.after earlier).step event).1 := by
  induction events generalizing traffic with
  | nil => cases member
  | cons event later inductionHypothesis =>
    rcases List.mem_append.mp member with here | there
    · exact ⟨[], event, later, rfl, here⟩
    · rcases inductionHypothesis there with ⟨earlier, other, rest, rfl, found⟩
      exact ⟨event :: earlier, other, rest, rfl, found⟩

/-! ## What an event can do -/

/-- Everything that can happen to a traffic.  The last one is the end of a fetch that is not under
way. -/
inductive Change (traffic : Traffic ι τ κ V) : Event ι τ κ V ε → Traffic ι τ κ V → Prop
  | served {name : ι} {now : τ} {key : κ} {entry : Entry τ (V key)}
      (fresh : traffic.cache.fresh? now key = some entry) :
      Change traffic (.get name now key) { traffic with fetches := traffic.fetches.erase name }
  | begun {name : ι} {now : τ} {key : κ} (missing : traffic.cache.fresh? now key = none) :
      Change traffic (.get name now key) { traffic with
        fetches := traffic.fetches.insert name ⟨key, traffic.cache.find? key⟩ }
  | stored {name : ι} {now : τ} {outcome : (key : κ) → Except ε (V key)} {fetch : Fetch τ κ V}
      {value : V fetch.key} (found : traffic.fetches.find? name = some fetch)
      (fetched : outcome fetch.key = .ok value) :
      Change traffic (.ended name now outcome)
        ⟨(traffic.cache.store now fetch.key value).2, traffic.fetches.erase name⟩
  | failed {name : ι} {now : τ} {outcome : (key : κ) → Except ε (V key)} {fetch : Fetch τ κ V}
      {cause : ε} (found : traffic.fetches.find? name = some fetch)
      (failure : outcome fetch.key = .error cause) :
      Change traffic (.ended name now outcome)
        { traffic with fetches := traffic.fetches.erase name }
  | dropped (name : ι) :
      Change traffic (.cancelled name) { traffic with fetches := traffic.fetches.erase name }
  | cleared : Change traffic .invalidated { traffic with cache := traffic.cache.invalidate }
  | endedLate {name : ι} (missing : traffic.fetches.find? name = none) (now : τ)
      (outcome : (key : κ) → Except ε (V key)) :
      Change traffic (.ended name now outcome) traffic

theorem change_next (traffic : Traffic ι τ κ V) (event : Event ι τ κ V ε) :
    Change traffic event (traffic.next event) := by
  cases event with
  | get name now key =>
    cases fresh : traffic.cache.fresh? now key with
    | some entry =>
      have served : traffic.next (.get name now key : Event ι τ κ V ε) =
          { traffic with fetches := traffic.fetches.erase name } := by
        simp only [next, step, fresh]
      rw [served]
      exact .served fresh
    | none =>
      have begun : traffic.next (.get name now key : Event ι τ κ V ε) = { traffic with
          fetches := traffic.fetches.insert name ⟨key, traffic.cache.find? key⟩ } := by
        simp only [next, step, fresh]
      rw [begun]
      exact .begun fresh
  | ended name now outcome =>
    cases found : traffic.fetches.find? name with
    | none =>
      have same : traffic.next (.ended name now outcome) = traffic := by
        simp only [next, step, found]
      rw [same]
      exact .endedLate found now outcome
    | some fetch =>
      have ended : traffic.next (.ended name now outcome) =
          ⟨(traffic.cache.settle now fetch.key fetch.previous (outcome fetch.key)).2,
            traffic.fetches.erase name⟩ := by
        simp only [next, step, found]
      rw [ended]
      cases result : outcome fetch.key with
      | ok value => exact .stored found result
      | error cause =>
        rw [settle_error]
        exact .failed found result
  | cancelled name => exact .dropped name
  | invalidated => exact .cleared

theorem Change.timeToLive {traffic result : Traffic ι τ κ V} {event : Event ι τ κ V ε}
    (change : Change traffic event result) :
    result.cache.timeToLive = traffic.cache.timeToLive := by
  cases change <;> rfl

theorem timeToLive_after (traffic : Traffic ι τ κ V) (events : List (Event ι τ κ V ε)) :
    (traffic.after events).cache.timeToLive = traffic.cache.timeToLive := by
  induction events generalizing traffic with
  | nil => rfl
  | cons event later inductionHypothesis =>
    rw [after_cons, inductionHypothesis, (change_next traffic event).timeToLive]

end Traffic

/-- A get that nothing comes between is a get and the end of its fetch. -/
theorem get_eq_settled [DecidableEq ι] [DecidableEq κ] [Sub τ] [LT τ] [DecidableLT τ]
    (cache : Cache τ κ V) (name : ι) (now later : τ) (key : κ)
    (outcome : (key : κ) → Except ε (V key)) :
    ((⟨cache, .empty⟩ : Traffic ι τ κ V).after
        [.get name now key, .ended name later outcome]).cache =
      (cache.get now later key (outcome key)).2 := by
  rw [Traffic.after_cons, Traffic.after_cons, Traffic.after_nil]
  cases fresh : cache.fresh? now key with
  | some entry => simp [Traffic.next, Traffic.step, get, fresh]
  | none => simp [Traffic.next, Traffic.step, get, fresh]

end Cache

end HomeConfig
