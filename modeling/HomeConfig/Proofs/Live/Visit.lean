import HomeConfig.Proofs.Live.Served
import HomeConfig.Proofs.Live.Settled

/-!
# Replies to an activity

An activity that waits goes on when its reply comes.  The store is then another one: meanwhile other
activities have run on it, and have fetched or dropped any list.  A `Visit` is a reply with the
store that it comes to.

What an activity is answered can be told from the stores and the replies alone.  A list is answered
from the store on which it is asked for if it is fresh there.  Else it is fetched, and if the fetch
fails, the list that was there when it was asked for is served, however old it is
(`Store.answer`).  An activity that asks for one list, perhaps behind one direct question, ends
with what it comes to with these answers (`Activity.visit_of_asksOnce`, `Activity.visits_of_reads`).
-/

namespace HomeConfig

variable {α β : Type}

/-- A reply, when it comes, and the store that it comes to. -/
structure Visit where
  now : Moment
  reply : Reply
  store : Store

/-- How far a reply brings an activity. -/
def Progress.visit (progress : Progress α) (visit : Visit) : Progress α :=
  (progress.resume visit.now visit.reply visit.store).1

/-! ## Answers -/

namespace Store

/-- What a question for a list is answered, if the next reply is to this question.  A fresh list is
served as it is, and without a connection there is an empty one.  Else the list is fetched; if that
fails, the list that was there when it was asked for is served, however old it is. -/
def answer (store : Store) (now : Moment) (registry : Registry) (next : Visit) :
    Except Failure (Listing registry) :=
  match store.lists.fresh? now registry with
  | some fresh => .ok fresh
  | none =>
    match store.access with
    | none => .ok ⟨[], now, store.lists.stored⟩
    | some access =>
      match registry.ofReply (access.url registry.endpoint) next.reply with
      | .ok items => .ok ⟨items, next.now, next.store.lists.stored⟩
      | .error cause =>
        match store.lists.find? registry with
        | some stale => .ok stale
        | none => .error cause

/-- What a direct question is answered, if the next reply is to this question. -/
def ask (store : Store) (endpoint : Endpoint) (next : Visit) : Except Failure Json :=
  match store.access with
  | none => disconnectedAnswer endpoint
  | some access => Reply.content (access.url endpoint) next.reply

variable {store : Store} {now : Moment} {registry : Registry}

theorem answer_of_fresh {entry : Listing registry}
    (fresh : store.lists.fresh? now registry = some entry) (next : Visit) :
    store.answer now registry next = .ok entry := by
  simp only [answer, fresh]

theorem answer_of_disconnected (missing : store.lists.fresh? now registry = none)
    (disconnected : store.access = none) (previous : Option (Listing registry)) (next : Visit) :
    store.answer now registry next = (store.settle now registry previous (.ok [])).1 := by
  simp only [answer, missing, disconnected]
  rfl

/-- The end of the fetch is what the question is answered. -/
theorem answer_of_connected (missing : store.lists.fresh? now registry = none) {access : Access}
    (connected : store.access = some access) (next : Visit) :
    store.answer now registry next =
      (next.store.settle next.now registry (store.lists.find? registry)
        (registry.ofReply (access.url registry.endpoint) next.reply)).1 := by
  simp only [answer, missing, connected]
  cases registry.ofReply (access.url registry.endpoint) next.reply with
  | ok items => rfl
  | error cause => cases store.lists.find? registry <;> rfl

/-- What is answered depends on the lists and on the connection alone. -/
theorem answer_congr {other : Store} (lists : store.lists = other.lists)
    (access : store.access = other.access) (next : Visit) :
    store.answer now registry next = other.answer now registry next := by
  unfold answer
  rw [lists, access]

end Store

/-! ## Activities that ask for one list -/

namespace Activity

variable {activity : Activity α} {asked : Registry → Prop} {registry : Registry}
  {earlier middle later : Archive} {store : Store} {now : Moment} {answers : Answers}

/-- An activity that asks for one list only, and not for that one, ends at once. -/
theorem advance_of_asksNothing
    (asks : activity.AsksOnce fun other => other = registry ∧ other ≠ registry)
    (indexes : activity.Indexes earlier.Holds) (keeps : earlier.Keeps store) (now : Moment)
    (answers : Answers) :
    ∃ stored notices, activity.advance now store =
      (.finished (activity.given answers), stored, notices) := by
  have nothing : activity.AsksOnly fun _ => False :=
    asks.asksOnly.mono fun _ both => both.2 both.1
  have offers : store.Offers now answers fun _ => False := nofun
  exact advance_of_offers nothing indexes keeps offers

/-- What goes on with the end of a fetch asks for indexes of lists that the store knows by then. -/
theorem indexes_settled {next : Except Failure (Listing registry) → Activity α}
    {previous : Option (Listing registry)} (keeps : later.Keeps store)
    (extended : later.Extends earlier)
    (held : ∀ entry, previous = some entry → earlier.Holds registry entry)
    (indexes : (list registry next).Indexes earlier.Holds) (now : Moment)
    (outcome : Except Failure (List registry.Item)) :
    ∃ archive : Archive, archive.Keeps (store.settle now registry previous outcome).2.1 ∧
      (next (store.settle now registry previous outcome).1).Indexes archive.Holds := by
  rcases Store.settle_spec keeps now registry (fun entry old => extended.holds (held entry old))
    outcome with ⟨_, archive, grown, stored, served⟩
  have goesOn : ∀ answer, (next answer).Indexes fun other entry =>
      archive.Holds other entry ∨ Serves registry answer other entry := fun answer =>
    (indexes answer).mono fun _ _ either =>
      either.imp_left fun old => grown.holds (extended.holds old)
  exact ⟨archive, stored, indexes_served goesOn served⟩

/-- An activity that asks for one list ends with the next reply, if not before. -/
theorem visit_of_asksOnce (asks : activity.AsksOnce (· = registry))
    (indexes : activity.Indexes earlier.Holds) (keeps : earlier.Keeps store) {visit : Visit}
    (kept : later.Keeps visit.store) (extended : later.Extends earlier)
    (answered : answers.list registry = store.answer now registry visit) :
    (activity.advance now store).1.visit visit = .finished (activity.given answers) := by
  induction activity generalizing store with
  | finish result => rfl
  | note notice rest inductionHypothesis => exact inductionHypothesis asks indexes keeps answered
  | list other next inductionHypothesis =>
    rcases asks with ⟨rfl, quiet⟩
    rw [given, answered]
    cases fresh : store.lists.fresh? now other with
    | some entry =>
      have goesOn : (next (.ok entry)).Indexes earlier.Holds := by
        refine indexes_served indexes ?_
        rintro found ⟨rfl⟩
        exact keeps.listed other entry (Option.filter_eq_some_iff.mp fresh).1
      rcases advance_of_asksNothing (quiet _) goesOn keeps now answers with ⟨_, _, ended⟩
      simp only [Store.answer_of_fresh fresh, advance, fresh, ended]
      rfl
    | none =>
      cases connection : store.access with
      | none =>
        rcases indexes_settled keeps (.refl earlier) (keeps.listed other) indexes now (.ok []) with
          ⟨archive, stored, goesOn⟩
        rcases advance_of_asksNothing (quiet _) goesOn stored now answers with ⟨_, _, ended⟩
        rw [Store.answer_of_disconnected fresh connection (store.lists.find? other)]
        simp only [advance, fresh, connection, ended]
        rfl
      | some access =>
        rcases indexes_settled kept extended (keeps.listed other) indexes visit.now
          (other.ofReply (access.url other.endpoint) visit.reply) with ⟨archive, stored, goesOn⟩
        rcases advance_of_asksNothing (quiet _) goesOn stored visit.now answers with ⟨_, _, ended⟩
        rw [Store.answer_of_connected fresh connection]
        simp only [advance, fresh, connection, Progress.visit, Progress.resume, ended]
  | index states next inductionHypothesis =>
    rcases Store.indexOf_spec keeps indexes.1 with ⟨table, same, kept⟩
    have rest := indexes.2 (store.indexOf states).1
    have lists : (store.indexOf states).2.unshared.lists = store.unshared.lists :=
      congrArg Store.lists same
    have access : (store.indexOf states).2.unshared.access = store.unshared.access :=
      congrArg Store.access same
    have goesOn := inductionHypothesis _ (asks _) rest.1 kept
      (answered.trans (Store.answer_congr lists access visit).symm)
    rw [rest.2 table] at goesOn
    simpa only [advance, given, rest.2 table] using goesOn
  | read endpoint next inductionHypothesis => exact asks.elim

/-! ## Activities that ask a direct question first -/

/-- An activity asks a direct question, and then for each of some lists once at most. -/
def Reads (endpoint : Endpoint) (asked : Registry → Prop) : Activity α → Prop
  | read other next => other = endpoint ∧ ∀ answer, (next answer).AsksOnce asked
  | _ => False

variable {endpoint : Endpoint}

theorem Reads.readsFirst (reads : activity.Reads endpoint asked) : activity.ReadsFirst asked := by
  cases activity with
  | read other next => exact .one other fun answer => (reads.2 answer).asksOnly
  | finish | note | list | index => exact reads.elim

theorem Reads.bind {next : α → Activity β} (reads : activity.Reads endpoint fun _ => False)
    (goesOn : ∀ result, (next result).AsksOnce asked) :
    (activity >>= next).Reads endpoint asked := by
  cases activity with
  | read other after =>
    refine ⟨reads.1, fun answer => ?_⟩
    exact ((reads.2 answer).bind (goesOn ·) fun _ => False.elim).mono
      fun _ either => either.resolve_left not_false
  | finish | note | list | index => exact reads.elim

theorem Reads.bind_quiet {next : α → Activity β} (reads : activity.Reads endpoint asked)
    (quiet : ∀ result, (next result).AsksOnce fun _ => False) :
    (activity >>= next).Reads endpoint asked := by
  cases activity with
  | read other after => exact ⟨reads.1, fun answer => (reads.2 answer).bind_quiet quiet⟩
  | finish | note | list | index => exact reads.elim

/-- An activity that asks a direct question, and then for one list, ends with the next two replies,
if not before. -/
theorem visits_of_reads (reads : activity.Reads endpoint (· = registry))
    (indexes : activity.Indexes fun _ _ => False) (keeps : earlier.Keeps store)
    {first second : Visit} (kept : middle.Keeps first.store) (stored : later.Keeps second.store)
    (extended : middle.Extends earlier) (grown : later.Extends middle)
    (answered : answers.read endpoint = store.ask endpoint first)
    (listed : answers.list registry =
      if store.isConnected then first.store.answer first.now registry second
      else store.answer now registry first) :
    ((activity.advance now store).1.visit first).visit second =
      .finished (activity.given answers) := by
  cases activity with
  | read other next =>
    rcases reads with ⟨rfl, asks⟩
    have always (archive : Archive) (answer : Except Failure Json) :
        (next answer).Indexes archive.Holds :=
      (indexes answer).mono fun _ _ => False.elim
    rw [given, answered]
    cases connection : store.access with
    | none =>
      have atOnce : answers.list registry = store.answer now registry first := by
        simpa [Store.isConnected, connection] using listed
      have ended := visit_of_asksOnce (asks (disconnectedAnswer other)) (always earlier _) keeps
        kept extended atOnce
      simp only [advance, Store.ask, connection, ended]
      rfl
    | some access =>
      have later : answers.list registry = first.store.answer first.now registry second := by
        simpa [Store.isConnected, connection] using listed
      simp only [advance, Store.ask, connection]
      exact visit_of_asksOnce (asks _) (always middle _) kept stored grown later
  | finish | note | list | index => exact reads.elim

end Activity

end HomeConfig
