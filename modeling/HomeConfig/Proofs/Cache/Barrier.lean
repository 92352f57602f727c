import HomeConfig.Proofs.Cache.Latest

/-!
# What dropping everything does

When everything is dropped there is no entry, so the next get of a key fetches.  But a fetch that was
under way at that moment goes on, and what it brings is stored as if it had been asked for
afterwards.  So everything is fetched anew only as far as no fetch from before ends well afterwards
(`Abandons`).  Then every entry that is served has been fetched by a get that was made afterwards
(`FetchedSince`).
-/

namespace HomeConfig

namespace Cache

variable {ι τ κ : Type} {V : κ → Type} {ε : Type}
variable [DecidableEq ι] [DecidableEq κ] [Sub τ] [LT τ] [DecidableLT τ]

namespace Traffic

/-- No fetch of a key that is under way after some events ends well later. -/
def Abandons (timeToLive : τ) (key : κ) (before later : List (Event ι τ κ V ε)) : Prop :=
  ∀ name since, Awaits timeToLive name key since before →
    ∀ front now outcome rest value, later = front ++ .ended name now outcome :: rest →
      (∀ event ∈ front, event.name? ≠ some name) → outcome key ≠ .ok value

/-- A get that was made after some events has brought an entry. -/
def FetchedSince (timeToLive : τ) (key : κ) (before later : List (Event ι τ κ V ε))
    (entry : Entry τ (V key)) : Prop :=
  ∃ began front event rest, later = front ++ event :: rest ∧
    Brings timeToLive (before ++ began) (before ++ front) event key entry

theorem Abandons.of_append {timeToLive : τ} {key : κ} {before front rest : List (Event ι τ κ V ε)}
    (abandons : Abandons timeToLive key before (front ++ rest)) :
    Abandons timeToLive key before front := by
  intro name since waits first now outcome last value split
  exact abandons name since waits first now outcome (last ++ rest) value (by simp [split])

/-- Only the end of a fetch can bring what was not abandoned. -/
theorem Abandons.concat {timeToLive : τ} {key : κ} {before later : List (Event ι τ κ V ε)}
    (abandons : Abandons timeToLive key before later) {event : Event ι τ κ V ε}
    (idle : ∀ name now outcome, event ≠ .ended name now outcome) :
    Abandons timeToLive key before (later ++ [event]) := by
  intro name since waits front now outcome rest value split quiet
  rcases split_concat split with ⟨_, same, _⟩ | ⟨others, inside, _⟩
  · exact absurd same (idle name now outcome)
  · exact abandons name since waits front now outcome others value inside quiet

theorem FetchedSince.append {timeToLive : τ} {key : κ} {before front : List (Event ι τ κ V ε)}
    {entry : Entry τ (V key)} (fetched : FetchedSince timeToLive key before front entry)
    (rest : List (Event ι τ κ V ε)) : FetchedSince timeToLive key before (front ++ rest) entry := by
  rcases fetched with ⟨began, first, event, last, rfl, brings⟩
  exact ⟨began, first, event, last ++ rest, by simp, brings⟩

/-- A get that waits was made after some events, or it has waited since before and nothing of it
has happened. -/
theorem Awaits.began_after {timeToLive : τ} {name : ι} {key : κ}
    {since before later : List (Event ι τ κ V ε)}
    (waits : Awaits timeToLive name key since (before ++ later)) :
    (∃ began, since = before ++ began) ∨
      (Awaits timeToLive name key since before ∧ ∀ event ∈ later, event.name? ≠ some name) := by
  rcases waits with ⟨now, others, shape, missing, quiet⟩
  rcases List.append_eq_append_iff.mp shape with ⟨began, rfl, _⟩ | ⟨rest, rfl, remaining⟩
  · exact Or.inl ⟨began, rfl⟩
  · cases rest with
    | nil => exact Or.inl ⟨[], by simp⟩
    | cons first rest =>
      rcases List.cons.inj remaining with ⟨rfl, rfl⟩
      refine Or.inr ⟨⟨now, rest, rfl, missing, ?_⟩, ?_⟩
      · exact fun event member => quiet event (List.mem_append_left later member)
      · exact fun event member => quiet event (List.mem_append_right rest member)

/-- If the fetches from before are abandoned, then what is brought was asked for afterwards. -/
theorem Brings.began_after {timeToLive : τ} {key : κ} {before front rest : List (Event ι τ κ V ε)}
    {event : Event ι τ κ V ε} (abandons : Abandons timeToLive key before (front ++ event :: rest))
    {since : List (Event ι τ κ V ε)} {entry : Entry τ (V key)}
    (brings : Brings timeToLive since (before ++ front) event key entry) :
    ∃ began, since = before ++ began := by
  rcases brings with ⟨name, outcome, rfl, waits, fetched, _⟩
  rcases waits.began_after with after | ⟨waited, quiet⟩
  · exact after
  · exact absurd fetched (abandons name since waited front _ outcome rest _ rfl quiet)

/-- The latest entry was brought after everything was dropped. -/
theorem IsLatest.fetchedSince {timeToLive : τ} {key : κ} {entry : Entry τ (V key)}
    {dropped later : List (Event ι τ κ V ε)}
    (abandons : Abandons timeToLive key (dropped ++ [.invalidated]) later)
    (latest : IsLatest timeToLive key entry (dropped ++ [.invalidated] ++ later)) :
    FetchedSince timeToLive key (dropped ++ [.invalidated]) later entry := by
  rcases latest with ⟨since, earlier, event, rest, shape, brings, quiet⟩
  -- Either the entry was brought afterwards, or everything was dropped after it was brought.
  rcases List.append_eq_append_iff.mp shape with ⟨front, rfl, rfl⟩ | ⟨between, ends, remaining⟩
  · rcases brings.began_after abandons with ⟨began, rfl⟩
    exact ⟨began, front, event, rest, rfl, brings⟩
  · cases between with
    | nil =>
      obtain rfl : dropped ++ [.invalidated] = earlier := by simpa using ends
      obtain rfl : event :: rest = later := remaining
      have first : Brings timeToLive since (dropped ++ [.invalidated] ++ []) event key entry := by
        rwa [List.append_nil]
      rcases first.began_after abandons with ⟨began, rfl⟩
      exact ⟨began, [], event, rest, rfl, first⟩
    | cons first between =>
      rcases List.cons.inj remaining with ⟨rfl, rfl⟩
      -- The entry would have been brought before everything was dropped.
      rcases split_concat ends with ⟨_, rfl, _⟩ | ⟨others, _, rfl⟩
      · rcases brings with ⟨_, _, same, _⟩
        cases same
      · exact absurd rfl (quiet others .invalidated later (by simp)).1

/-- Right after everything was dropped, until a get of a key is made, there is no entry. -/
theorem find?_eq_none_of_dropped {timeToLive : τ} {key : κ} {dropped later : List (Event ι τ κ V ε)}
    (abandons : Abandons timeToLive key (dropped ++ [.invalidated]) later)
    (first : ∀ name now, .get name now key ∉ later) :
    ((start timeToLive : Traffic ι τ κ V).after
      (dropped ++ [.invalidated] ++ later)).cache.find? key = none := by
  apply Option.eq_none_iff_forall_ne_some.mpr
  intro entry found
  rcases IsLatest.fetchedSince abandons ((find?_after_iff timeToLive _ key entry).mp found) with
    ⟨began, front, event, rest, rfl, name, outcome, _, ⟨now, others, shape, _⟩, _⟩
  have own : .get name now key ∈ front := by
    have parts : front = began ++ .get name now key :: others := by simpa using shape
    simp [parts]
  exact first name now (List.mem_append_left _ own)

theorem name?_of_answer_mem_step (traffic : Traffic ι τ κ V) {event : Event ι τ κ V ε} {name : ι}
    {key : κ} {outcome : Outcome τ (V key) ε}
    (answered : .answer name key outcome ∈ (traffic.step event).1) : event.name? = some name := by
  cases event with
  | get other now wanted =>
    cases fresh : traffic.cache.fresh? now wanted with
    | none => simp [step, fresh] at answered
    | some entry =>
      simp only [step, fresh, List.mem_singleton] at answered
      cases answered
      rfl
  | ended other now outcome =>
    cases found : traffic.fetches.find? other with
    | none => simp [step, found] at answered
    | some fetch =>
      simp only [step, found, List.mem_singleton] at answered
      cases answered
      rfl
  | cancelled other => cases answered
  | invalidated => cases answered

/-- An entry that is there after everything was dropped has been fetched since. -/
theorem fetchedSince_of_find? {timeToLive : τ} {key : κ} {dropped later : List (Event ι τ κ V ε)}
    (abandons : Abandons timeToLive key (dropped ++ [.invalidated]) later) {entry : Entry τ (V key)}
    (found : ((start timeToLive : Traffic ι τ κ V).after
      (dropped ++ [.invalidated] ++ later)).cache.find? key = some entry) :
    FetchedSince timeToLive key (dropped ++ [.invalidated]) later entry :=
  IsLatest.fetchedSince abandons ((find?_after_iff timeToLive _ key entry).mp found)

/-- A get that is made after everything was dropped, and answered at once, is answered with what has
been fetched since. -/
theorem fetchedSince_of_answer_get {timeToLive : τ} {dropped later : List (Event ι τ κ V ε)}
    {name other : ι} {now : τ} {key wanted : κ} {outcome : Outcome τ (V key) ε}
    (abandons : Abandons timeToLive key (dropped ++ [.invalidated]) later)
    (answered : .answer name key outcome ∈
      (((start timeToLive : Traffic ι τ κ V).after (dropped ++ [.invalidated] ++ later)).step
        (.get other now wanted)).1) {entry : Entry τ (V key)} (result : outcome.result = .ok entry) :
    FetchedSince timeToLive key (dropped ++ [.invalidated]) later entry := by
  generalize reached : (start timeToLive : Traffic ι τ κ V).after
    (dropped ++ [.invalidated] ++ later) = traffic at answered
  cases fresh : traffic.cache.fresh? now wanted with
  | none => simp [step, fresh] at answered
  | some stored =>
    simp only [step, fresh, List.mem_singleton] at answered
    cases answered
    obtain rfl : stored = entry := Except.ok.inj result
    have found := ((fresh?_eq_some_iff _ _ _ _).mp fresh).1
    exact fetchedSince_of_find? abandons (reached ▸ found)

/-- A get that is made after everything was dropped, and answered when its fetch has ended, is
answered with what has been fetched since, even if the fetch has failed. -/
theorem fetchedSince_of_answer_ended {timeToLive : τ} {dropped later : List (Event ι τ κ V ε)}
    {name other : ι} {now : τ} {key : κ} {fetched : (key : κ) → Except ε (V key)}
    {outcome : Outcome τ (V key) ε}
    (abandons : Abandons timeToLive key (dropped ++ [.invalidated]) later)
    (made : ∃ asked wanted, .get name asked wanted ∈ later)
    (answered : .answer name key outcome ∈
      (((start timeToLive : Traffic ι τ κ V).after (dropped ++ [.invalidated] ++ later)).step
        (.ended other now fetched)).1) {entry : Entry τ (V key)}
    (result : outcome.result = .ok entry) :
    FetchedSince timeToLive key (dropped ++ [.invalidated])
      (later ++ [.ended other now fetched]) entry := by
  generalize reached : (start timeToLive : Traffic ι τ κ V).after
    (dropped ++ [.invalidated] ++ later) = traffic at answered
  cases found : traffic.fetches.find? other with
  | none => simp [step, found] at answered
  | some fetch =>
    simp only [step, found, List.mem_singleton] at answered
    cases answered
    rw [← reached] at found
    rcases (fetches_after_iff timeToLive _ name fetch).mp found with ⟨since, waits, previous⟩
    rcases waits.began_after with ⟨began, rfl⟩ | ⟨_, quiet⟩
    · -- A failure serves the entry that was there when the get was made, which was afterwards too.
      cases ended : fetched fetch.key with
      | ok value =>
        simp only [settle, ended, Outcome.result] at result
        obtain rfl := Except.ok.inj result
        refine ⟨began, later, _, [], rfl, name, fetched, rfl, waits, ended, ?_⟩
        rw [reached]
        rfl
      | error cause =>
        cases old : fetch.previous with
        | none => simp [settle, ended, old, Outcome.result] at result
        | some stored =>
          simp only [settle, ended, old, Outcome.result] at result
          obtain rfl := Except.ok.inj result
          rcases waits with ⟨asked, others, shape, _⟩
          obtain rfl : later = began ++ .get name asked fetch.key :: others := by simpa using shape
          have earlier := fetchedSince_of_find? abandons.of_append (previous.trans old)
          rw [List.append_assoc]
          exact earlier.append _
    · rcases made with ⟨asked, wanted, member⟩
      exact absurd rfl (quiet _ member)

end Traffic

end Cache

end HomeConfig
