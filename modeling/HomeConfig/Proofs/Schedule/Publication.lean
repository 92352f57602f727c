import HomeConfig.Proofs.Schedule.Sound
import Mathlib.Data.List.Induction

/-!
# What a schedule publishes

Checks take as long as they like and end in any order, so a result may come when it is no longer
wanted.  The schedule tells by one comparison: the number of the pass that ends, against the number
that stands for its document.

That comparison is worth what the tables are worth.  Here it is traced back to the run: the number
that stands for a document is that of its last request, unless the document was forgotten or
everything ended since (`latest_after_iff`).  So a result is published only for the last request,
no request is answered twice, and what was asked for before a document was forgotten is never
published, even if the document has been asked for again.
-/

namespace HomeConfig

namespace Schedule

variable {δ : Type}

/-! ## The request that counts -/

/-- Whether something ends what was asked for a document before. -/
def Event.overrules (uri : String) : Event δ → Bool
  | .schedule other => other == uri
  | .cancel other => other == uri
  | .shutDown => true
  | _ => false

/-- Whether something ends what was asked for a document before and asks for nothing itself. -/
def Event.withdraws (uri : String) : Event δ → Bool
  | .cancel other => other == uri
  | .shutDown => true
  | _ => false

/-- The pass with a number was asked for by the last request for a document, and nothing has ended
the request since.  Requests are numbered in their order, whatever document they are for. -/
def IsCurrent (uri : String) (number : Nat) (history : List (Event δ)) : Prop :=
  ∃ earlier later, history = earlier ++ .schedule uri :: later ∧ number = requests earlier + 1 ∧
    ∀ event ∈ later, event.overrules uri = false

theorem not_isCurrent_nil (uri : String) (number : Nat) :
    ¬IsCurrent uri number ([] : List (Event δ)) := by
  rintro ⟨earlier, later, shape, _⟩
  simp at shape

theorem isCurrent_iff_since (uri : String) (number : Nat) (history : List (Event δ)) :
    IsCurrent uri number history ↔
      Since (fun earlier event => event = .schedule uri ∧ number = requests earlier + 1)
        (fun event => event.overrules uri = true) history := by
  simp only [IsCurrent, Since, Bool.not_eq_true]
  constructor
  · rintro ⟨earlier, later, shape, ordinal, kept⟩
    exact ⟨earlier, _, later, shape, ⟨rfl, ordinal⟩, kept⟩
  · rintro ⟨earlier, _, later, shape, ⟨rfl, ordinal⟩, kept⟩
    exact ⟨earlier, later, shape, ordinal, kept⟩

/-- The last event decides, or leaves it to the ones before. -/
theorem isCurrent_concat_iff (uri : String) (number : Nat) (history : List (Event δ))
    (event : Event δ) :
    IsCurrent uri number (history ++ [event]) ↔
      (event = .schedule uri ∧ number = requests history + 1) ∨
        (event.overrules uri = false ∧ IsCurrent uri number history) := by
  rw [isCurrent_iff_since, isCurrent_iff_since, since_concat_iff, Bool.not_eq_true]

theorem issued_after_empty (history : List (Event δ)) :
    (empty.after history).issued = requests history := by
  rw [issued_after, show Schedule.empty.issued = 0 from rfl, Nat.zero_add]

/-- The table of latest passes is a function of the run. -/
theorem latest_after_iff (history : List (Event δ)) (uri : String) (number : Nat) :
    (empty.after history).latest.find? uri = some number ↔ IsCurrent uri number history := by
  induction history using List.reverseRecOn with
  | nil => exact ⟨fun found => by simp [empty] at found, fun h => absurd h (not_isCurrent_nil _ _)⟩
  | append_singleton history event inductionHypothesis =>
    have change := (change_next (empty.after history) event).latest
    rw [isCurrent_concat_iff, ← inductionHypothesis, after_append, after_cons, after_nil, change,
      ← issued_after_empty]
    cases event with
    | schedule other => by_cases same : uri = other <;> grind [Event.overrules]
    | cancel other => by_cases same : uri = other <;> grind [Event.overrules]
    | shutDown => simp [Event.overrules]
    | expire other => simp [Event.overrules]
    | complete other outcome => simp [Event.overrules]

/-! ## Publications -/

/-- A result that is published, with the pass whose check gave it. -/
structure Publication (δ : Type) where
  number : Nat
  uri : String
  result : δ

/-- What is published when something happens. -/
def published? (state : Schedule) : Event δ → Option (Publication δ)
  | .complete number outcome =>
    match (state.complete number outcome).1 with
    | some (.publish uri result) => some ⟨number, uri, result⟩
    | _ => none
  | _ => none

/-- Everything that is published in a run, in its order. -/
def publications : Schedule → List (Event δ) → List (Publication δ)
  | _, [] => []
  | state, event :: later =>
    (state.published? event).toList ++ publications (state.next event) later

theorem published?_eq_some_iff (state : Schedule) (event : Event δ)
    (publication : Publication δ) :
    state.published? event = some publication ↔
      event = .complete publication.number (.found publication.result) ∧
        state.latest.find? publication.uri = some publication.number ∧
        ∃ pass, state.find? publication.number .running = some pass ∧
          pass.uri = publication.uri := by
  rcases publication with ⟨number, uri, result⟩
  cases event with
  | complete other outcome =>
    cases found : state.find? other .running with
    | none => grind [published?, complete]
    | some pass =>
      have numbered := (find?_eq_some found).2.1
      cases outcome <;> grind [published?, complete, verdict?]
  | _ => simp [published?]

/-- The publications of a run are what it has published, no more and no less. -/
theorem publish_mem_step_iff (state : Schedule) (event : Event δ) (uri : String) (result : δ) :
    .conclude (.publish uri result) ∈ (state.step event).1 ↔
      ∃ number, state.published? event = some ⟨number, uri, result⟩ := by
  cases event with
  | complete number outcome =>
    cases verdict : (state.complete number outcome).1 with
    | none => simp [step, published?, verdict]
    | some ending =>
      cases ending with
      | publish other found => simp [step, published?, verdict, eq_comm]
      | report notice => simp [step, published?, verdict]
  | expire number => cases found : state.expire? number <;> simp [step, published?, found]
  | _ => simp [step, published?]

/-- A countdown begins with a request and with nothing else; the pass has the request's number. -/
theorem countDown_mem_step_iff (state : Schedule) (event : Event δ) (number : Nat) :
    .countDown number ∈ (state.step event).1 ↔
      ∃ uri, event = .schedule uri ∧ number = state.issued + 1 := by
  cases event with
  | expire other => cases found : state.expire? other <;> simp [step, found]
  | _ => simp [step]

/-! ## No pass is published twice -/

/-- A pass is an old one, perhaps further on, or the one that has just been asked for. -/
theorem Change.pass_mem {state result : Schedule} {event : Event δ}
    (change : Change state event result) {pass : Pass} (member : pass ∈ result.passes) :
    (∃ old ∈ state.passes, old.number = pass.number ∧ old.uri = pass.uri) ∨
      (event = .schedule pass.uri ∧ pass.number = state.issued + 1) := by
  cases change with
  | requested uri =>
    rcases List.mem_append.mp member with old | new
    · exact Or.inl ⟨pass, (mem_without.mp old).1, rfl, rfl⟩
    · rw [List.mem_singleton.mp new]
      exact Or.inr ⟨rfl, rfl⟩
  | forgotten uri => exact Or.inl ⟨pass, (mem_without.mp member).1, rfl, rfl⟩
  | started found =>
    rcases mem_begin.mp member with ⟨old, _⟩ | ⟨phase, old, shape⟩
    · exact Or.inl ⟨pass, old, rfl, rfl⟩
    · exact Or.inl ⟨_, old, by rw [shape], rfl⟩
  | finished found outcome => exact Or.inl ⟨pass, (mem_without.mp member).1, rfl, rfl⟩
  | stopped => cases member
  | expiredLate _ => exact Or.inl ⟨pass, member, rfl, rfl⟩
  | completedLate _ _ => exact Or.inl ⟨pass, member, rfl, rfl⟩

/-- A document gets a latest pass only from a request, and then it is the newest pass of all. -/
theorem Change.latest_eq_some {state result : Schedule} {event : Event δ}
    (change : Change state event result) {uri : String} {number : Nat}
    (latest : result.latest.find? uri = some number) :
    state.latest.find? uri = some number ∨
      (number = state.issued + 1 ∧ result.issued = state.issued + 1) := by
  cases change with
  | requested other =>
    rw [schedule_latest, Table.find?_insert] at latest
    split at latest
    · exact Or.inr ⟨(Option.some.inj latest).symm, rfl⟩
    · exact Or.inl latest
  | forgotten other =>
    rw [cancel_latest, Table.find?_erase] at latest
    split at latest
    · cases latest
    · exact Or.inl latest
  | stopped => simp at latest
  | started _ | finished _ _ | expiredLate _ | completedLate _ _ => exact Or.inl latest

/-- No pass becomes the latest one of its document again.  So the one that is, if it was there some
time before, was the latest one then and has been since. -/
theorem latest_of_latest_after {state : Schedule} (events : List (Event δ)) {uri : String}
    {number : Nat} (bound : number ≤ state.issued)
    (latest : (state.after events).latest.find? uri = some number) :
    state.latest.find? uri = some number := by
  induction events generalizing state with
  | nil => exact latest
  | cons event later inductionHypothesis =>
    have change := change_next state event
    have grows : number ≤ (state.next event).issued := by
      rw [change.issued]
      omega
    rcases change.latest_eq_some (inductionHypothesis grows latest) with old | ⟨fresh, _⟩
    · exact old
    · omega

/-- What is published from some moment on is the latest pass of its document at that moment and has
not ended yet, or it is asked for later. -/
theorem origin_of_mem_publications (state : Schedule) (events : List (Event δ))
    {publication : Publication δ} (member : publication ∈ publications state events) :
    (state.latest.find? publication.uri = some publication.number ∧
        ∃ pass ∈ state.passes, pass.number = publication.number) ∨
      state.issued < publication.number := by
  induction events generalizing state with
  | nil => cases member
  | cons event later inductionHypothesis =>
    rcases List.mem_append.mp member with now | then_
    · have published := (published?_eq_some_iff state event publication).mp
        (Option.mem_toList.mp now)
      rcases published with ⟨_, latest, pass, found, _⟩
      rcases find?_eq_some found with ⟨present, numbered, _⟩
      exact Or.inl ⟨latest, pass, present, numbered⟩
    · have change := change_next state event
      rcases inductionHypothesis (state.next event) then_ with ⟨latest, pass, present, same⟩ | new
      · rcases change.latest_eq_some latest with old | ⟨fresh, _⟩
        · rcases change.pass_mem present with ⟨before, kept, equal, _⟩ | ⟨_, fresh⟩
          · exact Or.inl ⟨old, before, kept, equal.trans same⟩
          · right
            omega
        · right
          omega
      · right
        have grows := change.issued
        omega

/-- From a sound schedule on, no pass is published twice, and the passes of one document are
published in the order of their numbers. -/
theorem Sound.publications_pairwise {state : Schedule} (sound : state.Sound)
    (events : List (Event δ)) :
    (publications state events).Pairwise fun first second =>
      first.number ≠ second.number ∧ (first.uri = second.uri → first.number < second.number) := by
  induction events generalizing state with
  | nil => exact List.Pairwise.nil
  | cons event later inductionHypothesis =>
    have rest := inductionHypothesis (sound.change (change_next state event))
    cases now : state.published? event with
    | none => simpa only [publications, now, Option.toList_none, List.nil_append] using rest
    | some first =>
      simp only [publications, now, Option.toList_some, List.singleton_append]
      refine List.pairwise_cons.mpr ⟨fun second member => ?_, rest⟩
      rcases (published?_eq_some_iff state event first).mp now with ⟨rfl, latest, pass, found, _⟩
      -- The pass that has just been published is gone, but still the latest one of its document.
      have finished : state.next (.complete first.number (.found first.result)) =
          state.ended first.number := by
        simp only [next, step, complete, found, ended]
      have bound : first.number ≤ state.issued := sound.latest_le _ _ latest
      rcases origin_of_mem_publications _ later member with ⟨newest, other, present, same⟩ | new
      · rw [finished] at newest present
        have different := (Sound.mem_ended.mp present).2
        refine ⟨fun equal => different (same.trans equal.symm), fun sameUri => ?_⟩
        rw [ended_latest, ← sameUri] at newest
        exact absurd (same.trans (Option.some.inj (newest.symm.trans latest))) different
      · rw [finished, ended_issued] at new
        exact ⟨by omega, fun _ => by omega⟩

/-! ## Publications follow requests -/

/-- In every run of a schedule, a result is published only for the last request for its document,
with nothing in between that ends the request; the passes that requests bring are numbered in the
order of the requests.  Hence no request is answered by two publications, the publications of one
document stand in the order of their requests, and once a document is forgotten or everything has
ended, only later requests for it are published. -/
theorem publications_follow_requests (events : List (Event δ)) :
    (∀ before event later uri result, events = before ++ event :: later →
      .conclude (.publish uri result) ∈ ((empty.after before).step event).1 →
        ∃ number, event = .complete number (.found result) ∧ IsCurrent uri number before) ∧
    (∀ before event later number, events = before ++ event :: later →
      (.countDown number ∈ ((empty.after before).step event).1 ↔
        ∃ uri, event = .schedule uri ∧ number = requests before + 1)) ∧
    ((publications empty events).Pairwise fun first second =>
      first.number ≠ second.number ∧ (first.uri = second.uri → first.number < second.number)) ∧
    (∀ before event later uri, events = before ++ event :: later → event.withdraws uri = true →
      ∀ publication ∈ publications (empty.after (before ++ [event])) later,
        publication.uri = uri → requests before < publication.number) := by
  refine ⟨?_, ?_, sound_empty.publications_pairwise events, ?_⟩
  · intro before event later uri result _ published
    rcases (publish_mem_step_iff _ event uri result).mp published with ⟨number, published⟩
    rcases (published?_eq_some_iff _ event _).mp published with ⟨ending, latest, _⟩
    exact ⟨number, ending, (latest_after_iff before uri number).mp latest⟩
  · intro before event later number _
    rw [countDown_mem_step_iff, issued_after_empty]
  · rintro before event later uri _ withdrawn publication member rfl
    have change := change_next (empty.after before) event
    have issued : requests before ≤ ((empty.after before).next event).issued := by
      rw [change.issued, issued_after_empty]
      exact Nat.le_add_right _ _
    rw [after_append, after_cons, after_nil] at member
    rcases origin_of_mem_publications _ later member with ⟨latest, _⟩ | new
    · rw [change.latest] at latest
      cases event <;> simp_all [Event.withdraws]
    · exact Nat.lt_of_le_of_lt issued new

/-- A run in which the first check ends after a second one has been asked for. -/
def overtaken : List (Event Nat) :=
  [.schedule "a", .expire 1, .schedule "a", .complete 1 (.found 10), .expire 2]

/-- The first check of `overtaken` publishes nothing, the second one stands for the last request. -/
theorem overtaken_pass_is_discarded :
    publications empty (overtaken ++ [.complete 2 (.found 20)]) = [⟨2, "a", 20⟩] ∧
      IsCurrent "a" 2 overtaken := by
  have published : .conclude (.publish "a" 20) ∈
      ((empty.after overtaken).step (.complete 2 (.found 20))).1 :=
    (publish_mem_step_iff _ _ _ _).mpr ⟨2, rfl⟩
  have current := (publications_follow_requests (overtaken ++ [.complete 2 (.found 20)])).1
    overtaken _ [] "a" 20 rfl published
  rcases current with ⟨number, ending, current⟩
  cases ending
  exact ⟨rfl, current⟩

end Schedule

end HomeConfig
