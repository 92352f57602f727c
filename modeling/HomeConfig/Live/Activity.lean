import HomeConfig.Live.Cache
import HomeConfig.Live.Request
import HomeConfig.Notice
import HomeConfig.Number.Binary64

/-!
# Activities

An activity is a piece of work that reads live data.  It is a tree of steps: at each one it asks
for something and goes on with the answer.  Lists are asked for through the cache, single
entities and rendered templates directly.

`Activity.advance` runs an activity against the store until it ends or has to wait for a reply,
and `Progress.resume` goes on when the reply is there.  Between the two any other activity may
run on the same store, so what a step reads is what the store holds at that moment, with one
exception: a fetch remembers the entry that was there when it began.
-/

namespace HomeConfig

/-- A time, in seconds. -/
abbrev Moment := Binary64

/-- A fetched list. -/
abbrev Listing (registry : Registry) := Cache.Entry Moment (List registry.Item)

/-- The states of a fetched list by identifier. -/
structure EntityIndex where
  /-- The serial number of the list. -/
  source : Nat
  /-- Which building of an index this one is. -/
  version : Nat
  table : EntityTable

/-- A piece of work that reads live data. -/
inductive Activity (α : Type) : Type
  | finish (result : α)
  | note (notice : Notice) (rest : Activity α)
  | list (registry : Registry) (next : Except Failure (Listing registry) → Activity α)
  | index (states : Listing .states) (next : EntityIndex → Activity α)
  | read (endpoint : Endpoint) (next : Except Failure Json → Activity α)

namespace Activity

variable {α β : Type}

/-- Go on with the result of an activity. -/
protected def bind (next : α → Activity β) : Activity α → Activity β
  | finish result => next result
  | note notice rest => note notice (rest.bind next)
  | list registry after => list registry fun answer => (after answer).bind next
  | index states after => index states fun answer => (after answer).bind next
  | read endpoint after => read endpoint fun answer => (after answer).bind next

instance : Monad Activity where
  pure := finish
  bind activity next := activity.bind next

/-- Report something. -/
def report (notice : Notice) : Activity Unit :=
  note notice (finish ())

end Activity

/-- An activity that can fail. -/
abbrev Inquiry := ExceptT Failure Activity

/-! ## The store -/

/-- What the activities of one session share. -/
structure Store where
  /-- Where live data comes from; `none` without a credential. -/
  access : Option Access
  /-- Whether a connection is open. -/
  isOpen : Bool
  /-- How many connections have been opened. -/
  opened : Nat
  lists : Cache Moment Registry fun registry => List registry.Item
  index : Option EntityIndex
  /-- How many indexes have been built. -/
  built : Nat

namespace Store

/-- The store of a new session. -/
def new (access : Option Access) (timeToLive : Moment) : Store :=
  ⟨access, false, 0, Cache.empty timeToLive, none, 0⟩

/-- Whether live data can be had at all. -/
def isConnected (store : Store) : Bool :=
  store.access.isSome

/-- A store with an open connection. -/
def connect (store : Store) : Store :=
  if store.isOpen then store else { store with isOpen := true, opened := store.opened + 1 }

/-- A store without an open connection. -/
def close (store : Store) : Store :=
  { store with isOpen := false }

/-- Drop all lists, so that each is fetched again. -/
def invalidate (store : Store) : Store :=
  { store with lists := store.lists.invalidate }

/-- The index of a list of states.  It is built anew only when the list is another one. -/
def indexOf (store : Store) (states : Listing .states) : EntityIndex × Store :=
  let build := fun (_ : Unit) =>
    let index : EntityIndex := ⟨states.serial, store.built, EntityTable.ofList states.value⟩
    (index, { store with index := some index, built := store.built + 1 })
  match store.index with
  | some index => if index.source = states.serial then (index, store) else build ()
  | none => build ()

/-- What is reported when an old value is served. -/
def staleNotices {α : Type} (key : String) : Cache.Outcome Moment α Failure → List Notice
  | .stale _ cause => [.refreshFailed key cause]
  | _ => []

/-- End the fetch of a list, and report it when an old list is served. -/
def settle (store : Store) (now : Moment) (registry : Registry)
    (previous : Option (Listing registry)) (outcome : Except Failure (List registry.Item)) :
    Except Failure (Listing registry) × Store × List Notice :=
  let (outcome, lists) := store.lists.settle now registry previous outcome
  (outcome.result, { store with lists := lists }, staleNotices registry.name outcome)

end Store

/-- What a direct question is answered without a connection. -/
def disconnectedAnswer : Endpoint → Except Failure Json
  | .template _ => .error (.problem
      { Problem.ofQuery "render_template" "No Home Assistant token configured" with
        kind := .notConnected })
  | _ => .ok .null

/-! ## Running -/

/-- How far an activity has come. -/
inductive Progress (α : Type) : Type
  | finished (result : α)
  /-- It waits for a list; `previous` is the entry that was there when it began to. -/
  | listing (access : Access) (registry : Registry) (previous : Option (Listing registry))
    (next : Except Failure (Listing registry) → Activity α)
  /-- It waits for the answer to a direct question. -/
  | reading (access : Access) (endpoint : Endpoint) (next : Except Failure Json → Activity α)

namespace Activity

variable {α : Type}

/-- Run an activity until it ends or has to wait. -/
def advance (now : Moment) : Activity α → Store → Progress α × Store × List Notice
  | finish result, store => (.finished result, store, [])
  | note notice rest, store =>
    let (progress, store, notices) := rest.advance now store
    (progress, store, notice :: notices)
  | list registry next, store =>
    match store.lists.fresh? now registry with
    | some entry => (next (.ok entry)).advance now store
    | none =>
      let previous := store.lists.find? registry
      match store.access with
      | some access => (.listing access registry previous next, store.connect, [])
      | none =>
        let (answer, store, notices) := store.settle now registry previous (.ok [])
        let (progress, store, later) := (next answer).advance now store
        (progress, store, notices ++ later)
  | index states next, store =>
    let (found, store) := store.indexOf states
    (next found).advance now store
  | read endpoint next, store =>
    match store.access with
    | some access => (.reading access endpoint next, store.connect, [])
    | none => (next (disconnectedAnswer endpoint)).advance now store

end Activity

namespace Progress

variable {α : Type}

/-- The request whose reply is awaited. -/
def request? : Progress α → Option (Access × Endpoint)
  | finished _ => none
  | listing access registry _ _ => some (access, registry.endpoint)
  | reading access endpoint _ => some (access, endpoint)

/-- Go on when the reply is there. -/
def resume (now : Moment) (reply : Reply) (store : Store) :
    Progress α → Progress α × Store × List Notice
  | finished result => (finished result, store, [])
  | listing access registry previous next =>
    let outcome := registry.ofReply (access.url registry.endpoint) reply
    let (answer, store, notices) := store.settle now registry previous outcome
    let (progress, store, later) := (next answer).advance now store
    (progress, store, notices ++ later)
  | reading access endpoint next =>
    (next (Reply.content (access.url endpoint) reply)).advance now store

end Progress

end HomeConfig
