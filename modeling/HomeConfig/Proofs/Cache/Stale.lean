import HomeConfig.Proofs.Cache.Latest

/-!
# Failures and old values

When a fetch fails, the value that was there when the get began is served, however old it is, and
only a get that found nothing then lets the failure through.  Nothing is looked up again: what
other fetches of the key have brought while the get was waiting is not served.

So a get serves the entry of the moment of the failure as long as it was the only one to fetch its
key meanwhile (`failed_get_serves_what_is_stored`).  Of two overlapping gets of a missing key, the
one that fails last fails although the other one has stored a value
(`overtaken_get_fails_beside_a_value`).
-/

namespace HomeConfig

namespace Cache

variable {ι τ κ : Type} {V : κ → Type} {ε : Type}
variable [DecidableEq ι] [DecidableEq κ] [Sub τ] [LT τ] [DecidableLT τ]

namespace Traffic

/-- An entry stays until another one is brought or everything is dropped. -/
theorem find?_after_of_quiet (timeToLive : τ) (key : κ) (earlier later : List (Event ι τ κ V ε))
    (kept : ∀ event ∈ later, event ≠ .invalidated)
    (quiet : ∀ front event rest, later = front ++ event :: rest → ∀ since entry,
      ¬Brings timeToLive since (earlier ++ front) event key entry) :
    ((start timeToLive : Traffic ι τ κ V).after (earlier ++ later)).cache.find? key =
      ((start timeToLive : Traffic ι τ κ V).after earlier).cache.find? key := by
  induction later using List.reverseRecOn with
  | nil => rw [List.append_nil]
  | append_singleton later event inductionHypothesis =>
    have before : ∀ front next rest, later = front ++ next :: rest → ∀ since entry,
        ¬Brings timeToLive since (earlier ++ front) next key entry := by
      intro front next rest split
      exact quiet front next (rest ++ [event]) (by simp [split])
    have old := inductionHypothesis (fun other member => kept other (by simp [member])) before
    have change :=
      change_next ((start timeToLive : Traffic ι τ κ V).after (earlier ++ later)) event
    have nothing : ∀ entry,
        ¬((start timeToLive : Traffic ι τ κ V).after (earlier ++ later)).Fetches event key entry := by
      intro entry fetched
      rcases (fetches_iff_brings timeToLive _ event key entry).mp fetched with ⟨since, brings⟩
      exact quiet later event [] rfl since entry brings
    rw [← old, ← List.append_assoc, after_append _ (earlier ++ later), after_cons, after_nil]
    exact change.find?_cache_of_quiet (kept event (by simp)) nothing

/-- Unless everything is dropped, a key whose fetch has once ended well has an entry. -/
theorem isSome_find?_of_brings (timeToLive : τ) {key : κ} {front rest : List (Event ι τ κ V ε)}
    {event : Event ι τ κ V ε} (kept : ∀ next ∈ front ++ event :: rest, next ≠ .invalidated)
    {since : List (Event ι τ κ V ε)} {entry : Entry τ (V key)}
    (brings : Brings timeToLive since front event key entry) :
    (((start timeToLive : Traffic ι τ κ V).after (front ++ event :: rest)).cache.find? key).isSome := by
  induction rest using List.reverseRecOn with
  | nil =>
    have latest : IsLatest timeToLive key entry (front ++ [event]) :=
      (isLatest_concat_iff timeToLive key entry front event).mpr (Or.inl ⟨since, brings⟩)
    rw [(find?_after_iff timeToLive _ key entry).mpr latest]
    rfl
  | append_singleton rest next inductionHypothesis =>
    have whole : front ++ event :: (rest ++ [next]) = front ++ event :: rest ++ [next] := by simp
    rw [whole] at kept ⊢
    have old := inductionHypothesis fun other member => kept other (by simp at member ⊢; tauto)
    rcases Option.isSome_iff_exists.mp old with ⟨stored, found⟩
    have change :=
      change_next ((start timeToLive : Traffic ι τ κ V).after (front ++ event :: rest)) next
    rw [after_append, after_cons, after_nil]
    -- The next event brings another entry, or it leaves the one that is there.
    by_cases fetched : ∃ other, ((start timeToLive : Traffic ι τ κ V).after
        (front ++ event :: rest)).Fetches next key other
    · rcases fetched with ⟨other, fetched⟩
      rw [(change.find?_cache_iff key other).mpr (Or.inl fetched)]
      rfl
    · rw [change.find?_cache_of_quiet (kept next (by simp)) (not_exists.mp fetched), found]
      rfl

/-- A get whose fetch fails answers with the entry that was there when it was called, or with the
failure if there was none. -/
theorem step_failed (timeToLive : τ) {earlier history : List (Event ι τ κ V ε)} {name : ι} {key : κ}
    (waits : Awaits timeToLive name key earlier history) (now : τ)
    {outcome : (key : κ) → Except ε (V key)} {cause : ε} (failure : outcome key = .error cause) :
    (((start timeToLive : Traffic ι τ κ V).after history).step (.ended name now outcome)).1 =
      [.answer name key
        (match ((start timeToLive : Traffic ι τ κ V).after earlier).cache.find? key with
          | some entry => .stale entry cause
          | none => .failed cause)] := by
  simp only [step, waits.find?_fetches, failure, settle]
  cases ((start timeToLive : Traffic ι τ κ V).after earlier).cache.find? key <;> rfl

/-- In a run in which nothing is dropped, let a get's fetch fail, and let no other fetch of its key
have ended well since the get was called.  Then the get answers with the entry that is stored at that
moment, if there is one; and if it fails, no fetch of the key has ever ended well. -/
theorem failed_get_serves_what_is_stored (timeToLive : τ) {earlier between : List (Event ι τ κ V ε)}
    {name : ι} {asked : τ} {key : κ}
    (missing : ((start timeToLive : Traffic ι τ κ V).after earlier).cache.fresh? asked key = none)
    (waiting : ∀ event ∈ between, event.name? ≠ some name)
    (kept : ∀ event ∈ earlier ++ .get name asked key :: between, event ≠ .invalidated)
    (alone : ∀ front event rest, between = front ++ event :: rest → ∀ since entry,
      ¬Brings timeToLive since (earlier ++ .get name asked key :: front) event key entry)
    (now : τ) {outcome : (key : κ) → Except ε (V key)} {cause : ε}
    (failure : outcome key = .error cause) :
    let traffic := (start timeToLive : Traffic ι τ κ V).after
      (earlier ++ .get name asked key :: between)
    (∀ entry, traffic.cache.find? key = some entry →
      (traffic.step (.ended name now outcome)).1 = [.answer name key (.stale entry cause)]) ∧
    (traffic.cache.find? key = none →
      (traffic.step (.ended name now outcome)).1 = [.answer name key (.failed cause)]) ∧
    (.answer name key (.failed cause) ∈ (traffic.step (.ended name now outcome)).1 →
      ∀ front event rest, earlier ++ .get name asked key :: between = front ++ event :: rest →
        ∀ since entry, ¬Brings timeToLive since front event key entry) := by
  intro traffic
  have waits : Awaits timeToLive name key earlier (earlier ++ .get name asked key :: between) :=
    ⟨asked, between, rfl, missing, waiting⟩
  -- What is served is the entry of the moment of the call; as the get is alone, it is still there.
  have unchanged : traffic.cache.find? key =
      ((start timeToLive : Traffic ι τ κ V).after earlier).cache.find? key := by
    apply find?_after_of_quiet
    · exact fun event member => kept event (List.mem_append_right earlier member)
    · intro front event rest split since entry brings
      cases front with
      | nil =>
        obtain rfl : _ = event := (List.cons.inj split).1
        rcases brings with ⟨_, _, shape, _⟩
        cases shape
      | cons first front =>
        rcases List.cons.inj split with ⟨rfl, remaining⟩
        exact alone front event rest remaining since entry brings
  have answer := step_failed timeToLive waits now failure
  rw [← unchanged] at answer
  refine ⟨fun entry found => ?_, fun nothing => ?_, fun raised => ?_⟩
  · rw [answer, found]
  · rw [answer, nothing]
  · intro front event rest split since entry brings
    have stored := isSome_find?_of_brings timeToLive (split ▸ kept) brings
    rw [← split] at stored
    rcases Option.isSome_iff_exists.mp stored with ⟨other, found⟩
    rw [answer, show traffic.cache.find? key = some other from found] at raised
    simp at raised

/-- A value is fetched, and again when it has become too old. -/
def refreshed : List (Event Nat Nat Unit (fun _ => Nat) String) :=
  [.get 1 0 (), .ended 1 1 fun _ => .ok 5] ++ .get 2 90 () :: [.get 3 91 ()]

/-- The second fetch of `refreshed` fails while a third one is under way: the old value is served. -/
theorem failed_refresh_serves_the_old_value :
    (((start 60 : Traffic Nat Nat Unit fun _ => Nat).after refreshed).step
      (.ended 2 95 fun _ => .error "down")).1 =
        [.answer 2 () (.stale ⟨5, 1, 0⟩ "down")] := by
  refine (failed_get_serves_what_is_stored 60 rfl ?_ ?_ ?_ 95 rfl).1 ⟨5, 1, 0⟩ rfl
  · simp [Event.name?]
  · simp
  · rintro front event rest split since entry ⟨_, _, shape, _⟩
    cases front with
    | nil =>
      obtain rfl := (List.cons.inj split).1
      cases shape
    | cons _ front => simp at split

/-- Two gets of a missing key overlap, and the second one has its value first. -/
def overtaken : List (Event Nat Nat Unit (fun _ => Nat) String) :=
  [.get 1 0 (), .get 2 0 (), .ended 2 1 fun _ => .ok 5]

/-- When the first get of `overtaken` fails, a value is stored and a fetch has ended well, and still
the failure is let through. -/
theorem overtaken_get_fails_beside_a_value :
    ((start 60 : Traffic Nat Nat Unit fun _ => Nat).after overtaken).cache.find? () =
        some ⟨5, 1, 0⟩ ∧
      (((start 60 : Traffic Nat Nat Unit fun _ => Nat).after overtaken).step
        (.ended 1 2 fun _ => .error "down")).1 = [.answer 1 () (.failed "down")] ∧
      Brings 60 [.get 1 0 ()] [.get 1 0 (), .get 2 0 ()] (.ended 2 1 fun _ => .ok 5 :
        Event Nat Nat Unit (fun _ => Nat) String) () ⟨5, 1, 0⟩ :=
  ⟨rfl, rfl, 2, _, rfl, ⟨0, [], rfl, rfl, by simp⟩, rfl, rfl⟩

end Traffic

end Cache

end HomeConfig
