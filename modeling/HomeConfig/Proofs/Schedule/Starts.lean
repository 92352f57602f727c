import HomeConfig.Proofs.Schedule.Publication
import Mathlib.Algebra.Order.Monoid.Defs

/-!
# When checks are to start

A request for a document leads to a check if the document is left alone for as long as a countdown
takes: if no later call asks for the document again, forgets it or ends everything within that time.
`starts` says so of a list of calls, and so what the schedule has to do with it.  It knows nothing
of passes.
-/

namespace HomeConfig

namespace Schedule

variable {τ δ : Type}

/-- Whether something asks for a check of a document. -/
def Event.asks (uri : String) : Event δ → Bool
  | .schedule other => other == uri
  | _ => false

theorem Event.overrules_of_asks {uri : String} {event : Event δ} (asks : event.asks uri = true) :
    event.overrules uri = true := by
  cases event with
  | schedule other => exact asks
  | cancel _ | expire _ | complete _ _ | shutDown => cases asks

variable [LinearOrder τ]

/-- No call that concerns a document comes before a given time. -/
def LeftAlone (uri : String) (limit : τ) (calls : List (τ × Event δ)) : Prop :=
  ∀ call ∈ calls, call.2.overrules uri → limit ≤ call.1

instance (uri : String) (limit : τ) (calls : List (τ × Event δ)) :
    Decidable (LeftAlone uri limit calls) :=
  inferInstanceAs (Decidable (∀ call ∈ calls, call.2.overrules uri → limit ≤ call.1))

theorem leftAlone_append_iff (uri : String) (limit : τ) (earlier later : List (τ × Event δ)) :
    LeftAlone uri limit (earlier ++ later) ↔
      LeftAlone uri limit earlier ∧ LeftAlone uri limit later := by
  simp [LeftAlone, or_imp, forall_and]

variable [Add τ]

/-- The times at which checks of a document are to start because of some calls, each of which has a
time. -/
def starts (delay : τ) (uri : String) : List (τ × Event δ) → List τ
  | [] => []
  | (time, call) :: later =>
    if call.asks uri ∧ LeftAlone uri (time + delay) later then
      (time + delay) :: starts delay uri later
    else starts delay uri later

/-- A further call takes away what has not started before it, if it concerns the document, and adds
a start if it asks for a check. -/
theorem starts_concat (delay : τ) (uri : String) (calls : List (τ × Event δ)) (now : τ)
    (call : Event δ) :
    starts delay uri (calls ++ [(now, call)]) =
      ((starts delay uri calls).filter fun start => !call.overrules uri || start ≤ now) ++
        if call.asks uri then [now + delay] else [] := by
  induction calls with
  | nil => simp [starts, LeftAlone]
  | cons first later inductionHypothesis =>
    rcases first with ⟨time, other⟩
    have last : LeftAlone uri (time + delay) [(now, call)] ↔
        (call.overrules uri → time + delay ≤ now) := by
      simp [LeftAlone]
    have remains : (!call.overrules uri || decide (time + delay ≤ now)) = true ↔
        (call.overrules uri → time + delay ≤ now) := by
      simp [imp_iff_not_or]
    -- The first request starts a check in the end if it does so without the call, and the call
    -- comes late enough for it.
    by_cases early : other.asks uri ∧ LeftAlone uri (time + delay) later
    · by_cases kept : call.overrules uri → time + delay ≤ now
      · have both : other.asks uri ∧ LeftAlone uri (time + delay) (later ++ [(now, call)]) :=
          ⟨early.1, (leftAlone_append_iff _ _ _ _).mpr ⟨early.2, last.mpr kept⟩⟩
        rw [List.cons_append, starts, starts, if_pos both, if_pos early, inductionHypothesis,
          List.filter_cons, if_pos (remains.mpr kept), List.cons_append]
      · have missing : ¬(other.asks uri ∧ LeftAlone uri (time + delay) (later ++ [(now, call)])) :=
          fun both => kept (last.mp ((leftAlone_append_iff _ _ _ _).mp both.2).2)
        rw [List.cons_append, starts, starts, if_neg missing, if_pos early, inductionHypothesis,
          List.filter_cons, if_neg (mt remains.mp kept)]
    · have missing : ¬(other.asks uri ∧ LeftAlone uri (time + delay) (later ++ [(now, call)])) :=
        fun both => early ⟨both.1, ((leftAlone_append_iff _ _ _ _).mp both.2).1⟩
      rw [List.cons_append, starts, starts, if_neg missing, if_neg early, inductionHypothesis]

/-- What has no bearing on a document starts nothing and takes nothing away. -/
theorem starts_concat_of_not_overrules (delay : τ) {uri : String} (calls : List (τ × Event δ))
    (now : τ) {call : Event δ} (apart : call.overrules uri = false) :
    starts delay uri (calls ++ [(now, call)]) = starts delay uri calls := by
  have silent : call.asks uri = false := by
    cases asks : call.asks uri with
    | true => exact absurd (Event.overrules_of_asks asks) (by simp [apart])
    | false => rfl
  simp [starts_concat, apart, silent]

/-! ## Bursts -/

/-- The calls about a document are requests, each of them less than a countdown after the one before.
The times are those of the first and the last request. -/
inductive Burst (delay : τ) (uri : String) : τ → τ → List (τ × Event δ) → Prop
  | last (time : τ) {later : List (τ × Event δ)}
      (quiet : ∀ call ∈ later, call.2.overrules uri = false) :
      Burst delay uri time time ((time, .schedule uri) :: later)
  | more {time next last : τ} {later : List (τ × Event δ)} (soon : next < time + delay)
      (rest : Burst delay uri next last later) :
      Burst delay uri time last ((time, .schedule uri) :: later)
  | aside {first last : τ} {later : List (τ × Event δ)} {call : τ × Event δ}
      (apart : call.2.overrules uri = false) (rest : Burst delay uri first last later) :
      Burst delay uri first last (call :: later)

/-- Calls that have no bearing on a document may be left out before others. -/
theorem starts_append_of_quiet {delay : τ} {uri : String} {quiet : List (τ × Event δ)}
    (isQuiet : ∀ call ∈ quiet, call.2.overrules uri = false) (later : List (τ × Event δ)) :
    starts delay uri (quiet ++ later) = starts delay uri later := by
  induction quiet with
  | nil => rfl
  | cons call rest inductionHypothesis =>
    rcases List.forall_mem_cons.mp isQuiet with ⟨apart, others⟩
    have silent : ¬call.2.asks uri = true := fun asks =>
      absurd (Event.overrules_of_asks asks) (by simp [apart])
    rw [List.cons_append, starts, if_neg fun both => silent both.1, inductionHypothesis others]

theorem Burst.first_mem {delay : τ} {uri : String} {first last : τ} {calls : List (τ × Event δ)}
    (burst : Burst delay uri first last calls) : (first, .schedule uri) ∈ calls := by
  induction burst with
  | last time quiet => exact List.mem_cons_self
  | more soon rest _ => exact List.mem_cons_self
  | aside apart rest inductionHypothesis => exact List.mem_cons_of_mem _ inductionHypothesis

/-- A burst of requests after which the document is left alone starts one check, a countdown after
the last of them. -/
theorem Burst.starts_append {delay : τ} {uri : String} {first last : τ}
    {burst later : List (τ × Event δ)} (isBurst : Burst delay uri first last burst)
    (alone : LeftAlone uri (last + delay) later) :
    starts delay uri (burst ++ later) = (last + delay) :: starts delay uri later := by
  induction isBurst with
  | @last time rest quiet =>
    have whole : LeftAlone uri (time + delay) (rest ++ later) := by
      refine (leftAlone_append_iff _ _ _ _).mpr ⟨fun call member concerns => ?_, alone⟩
      simp [quiet call member] at concerns
    rw [List.cons_append, starts, if_pos ⟨by simp [Event.asks], whole⟩, starts_append_of_quiet quiet]
  | @more time next last rest soon further inductionHypothesis =>
    have overruled : ¬LeftAlone uri (time + delay) (rest ++ later) := fun whole =>
      absurd (whole _ (List.mem_append_left _ further.first_mem) (by simp [Event.overrules]))
        (not_le_of_gt soon)
    rw [List.cons_append, starts, if_neg fun both => overruled both.2, inductionHypothesis alone]
  | @aside first last rest call apart further inductionHypothesis =>
    have silent : ¬call.2.asks uri = true := fun asks =>
      absurd (Event.overrules_of_asks asks) (by simp [apart])
    rw [List.cons_append, starts, if_neg fun both => silent both.1, inductionHypothesis alone]

/-! ## More calls -/

/-- What has started before any further call stays. -/
theorem starts_mono {delay : τ} {uri : String} {earlier : List (τ × Event δ)} {start : τ}
    (member : start ∈ starts delay uri earlier) {later : List (τ × Event δ)}
    (after : LeftAlone uri start later) : start ∈ starts delay uri (earlier ++ later) := by
  induction earlier with
  | nil => cases member
  | cons first rest inductionHypothesis =>
    rcases first with ⟨time, call⟩
    rw [starts] at member
    rw [List.cons_append, starts]
    by_cases early : call.asks uri ∧ LeftAlone uri (time + delay) rest
    · rw [if_pos early] at member
      rcases List.mem_cons.mp member with rfl | further
      · rw [if_pos ⟨early.1, (leftAlone_append_iff _ _ _ _).mpr ⟨early.2, after⟩⟩]
        exact List.mem_cons_self
      · split
        · exact List.mem_cons_of_mem _ (inductionHypothesis further)
        · exact inductionHypothesis further
    · rw [if_neg early] at member
      have missing : ¬(call.asks uri ∧ LeftAlone uri (time + delay) (rest ++ later)) :=
        fun both => early ⟨both.1, ((leftAlone_append_iff _ _ _ _).mp both.2).1⟩
      rw [if_neg missing]
      exact inductionHypothesis member

/-- A call about a document never comes at the very moment at which a check of it is to start. -/
def Untied (delay : τ) (uri : String) (calls : List (τ × Event δ)) : Prop :=
  ∀ call ∈ calls, call.2.overrules uri → call.1 ∉ starts delay uri calls

instance (delay : τ) (uri : String) (calls : List (τ × Event δ)) :
    Decidable (Untied delay uri calls) :=
  inferInstanceAs (Decidable (∀ call ∈ calls, call.2.overrules uri → call.1 ∉ starts delay uri calls))

/-- A call that is not tied comes when nothing of what was called before it is to start. -/
theorem Untied.not_mem_starts {delay : τ} {uri : String} {earlier later : List (τ × Event δ)}
    {call : τ × Event δ} (untied : Untied delay uri (earlier ++ call :: later))
    (ordered : ∀ other ∈ later, call.1 ≤ other.1) (concerns : call.2.overrules uri) :
    call.1 ∉ starts delay uri earlier := by
  intro member
  have after : LeftAlone uri call.1 (call :: later) := by
    intro other there _
    rcases List.mem_cons.mp there with rfl | later
    · exact le_refl _
    · exact ordered other later
  exact untied call (List.mem_append_right _ List.mem_cons_self) concerns (starts_mono member after)

/-- Later calls take away starts of earlier ones, and add their own. -/
theorem exists_starts_append (delay : τ) (uri : String) (earlier later : List (τ × Event δ)) :
    ∃ kept, kept.Sublist (starts delay uri earlier) ∧
      starts delay uri (earlier ++ later) = kept ++ starts delay uri later := by
  induction earlier with
  | nil => exact ⟨[], List.Sublist.refl _, rfl⟩
  | cons first earlier inductionHypothesis =>
    rcases inductionHypothesis with ⟨kept, less, same⟩
    rcases first with ⟨time, call⟩
    rw [List.cons_append, starts, starts, same]
    by_cases early : call.asks uri ∧ LeftAlone uri (time + delay) earlier
    · rw [if_pos early]
      split
      · exact ⟨(time + delay) :: kept, less.cons_cons _, rfl⟩
      · exact ⟨kept, less.cons _, rfl⟩
    · have missing : ¬(call.asks uri ∧ LeftAlone uri (time + delay) (earlier ++ later)) :=
        fun both => early ⟨both.1, ((leftAlone_append_iff _ _ _ _).mp both.2).1⟩
      rw [if_neg early, if_neg missing]
      exact ⟨kept, less, rfl⟩

end Schedule

end HomeConfig
