import HomeConfig.Proofs.Rehearsal.OnTime
import Mathlib.Algebra.Order.Group.Nat

/-!
# Debouncing

Between requests time is waited for, and anything may be planned about the checks.  However that is
done, a check of a document begins when the document has been left alone for as long as a countdown
takes, and not otherwise: not sooner, not later, and not twice (`checks_are_debounced`).  It does not
matter whether earlier checks are still running.

Times are exact here.  They may be of any kind that is ordered and can be added without rounding.
-/

namespace HomeConfig

namespace PassRun

open Schedule

variable {τ δ : Type}

/-- What can be done with a schedule that is rehearsed. -/
inductive Deed (τ δ : Type)
  | schedule (uri : String)
  | cancel (uri : String)
  | shutDown
  | plan (uri : String) (plan : Plan τ δ)
  | wait (time : τ)

/-- What a deed calls for. -/
def Deed.call? : Deed τ δ → Option (Event δ)
  | .schedule uri => some (.schedule uri)
  | .cancel uri => some (.cancel uri)
  | .shutDown => some .shutDown
  | .plan _ _ | .wait _ => none

/-- A rehearsal in which nothing has been done. -/
def opening (delay start : τ) (otherwise : Plan τ δ) : Scene τ δ :=
  ⟨.start start, ⟨delay, .empty, .empty, otherwise, [], []⟩⟩

variable [AddCommMonoid τ] [LinearOrder τ]

/-- When a deed is done that is begun now. -/
def Deed.done (now : τ) : Deed τ δ → τ
  | .wait time => Timeline.arrival now time
  | _ => now

/-- The scene when a deed is done. -/
def act (scene : Scene τ δ) : Deed τ δ → Scene τ δ
  | .schedule uri => happen (.schedule uri) scene
  | .cancel uri => happen (.cancel uri) scene
  | .shutDown => happen .shutDown scene
  | .plan uri plan => { scene with state := scene.state.plan uri plan }
  | .wait time => pass time scene

/-- The scene when some deeds are done, the first of them first. -/
def play (scene : Scene τ δ) (deeds : List (Deed τ δ)) : Scene τ δ :=
  deeds.foldl act scene

/-- When some deeds are done. -/
def ending (now : τ) (deeds : List (Deed τ δ)) : τ :=
  deeds.foldl Deed.done now

/-- What some deeds call for, and when. -/
def calls (now : τ) : List (Deed τ δ) → List (τ × Event δ)
  | [] => []
  | deed :: later => deed.call?.toList.map (fun call => (now, call)) ++ calls (deed.done now) later

/-- The times at which checks of a document begin while a deed is done. -/
def Deed.beginnings (uri : String) (scene : Scene τ δ) : Deed τ δ → List τ
  | .wait time =>
    PassRun.beginnings uri (2 * scene.timeline.size + 1)
      { scene with timeline := scene.timeline.enter time none }
  | deed => begins uri scene (act scene deed)

/-- The times at which checks of a document begin while some deeds are done. -/
def begun (uri : String) (scene : Scene τ δ) : List (Deed τ δ) → List τ
  | [] => []
  | deed :: later => deed.beginnings uri scene ++ begun uri (act scene deed) later

/-! ## What is kept -/

theorem onTime_opening (delay start : τ) (otherwise : Plan τ δ) (uri : String) :
    OnTime delay uri [] [] (opening delay start otherwise) where
  proper := ⟨fun _ _ _ _ => nofun, nofun⟩
  debounced := {
    delay_eq := rfl
    sound := sound_empty
    counted := rfl
    past := nofun
    notPast := nofun
    own := nofun
    waiting := nofun
    idle := fun _ => rfl }

variable [IsOrderedCancelAddMonoid τ]

theorem le_of_mem_calls {now : τ} {deeds : List (Deed τ δ)} {call : τ × Event δ}
    (member : call ∈ calls now deeds) : now ≤ call.1 := by
  induction deeds generalizing now with
  | nil => cases member
  | cons deed later inductionHypothesis =>
    rcases List.mem_append.mp member with own | rest
    · rcases List.mem_map.mp own with ⟨_, _, rfl⟩
      exact le_refl _
    · have past : now ≤ deed.done now := by
        cases deed with
        | wait time => exact Timeline.le_arrival now time
        | schedule _ | cancel _ | shutDown | plan _ _ => exact le_refl now
      exact past.trans (inductionHypothesis rest)

namespace OnTime

variable {delay : τ} {uri : String} {earlier : List (τ × Event δ)} {before : List τ}
  {scene : Scene τ δ}

theorem act (onTime : OnTime delay uri earlier before scene) (positive : 0 < delay)
    (free : Timeline.ends scene.timeline.coming = []) (deed : Deed τ δ)
    (untied : ∀ call ∈ deed.call?, call.overrules uri →
      scene.timeline.now ∉ starts delay uri earlier) :
    OnTime delay uri
        (earlier ++ deed.call?.toList.map fun call => (scene.timeline.now, call))
        (before ++ deed.beginnings uri scene) (act scene deed) ∧
      (PassRun.act scene deed).timeline.now = deed.done scene.timeline.now ∧
      Timeline.ends (PassRun.act scene deed).timeline.coming = [] := by
  have quiet (other : Deed τ δ) (same : checks uri (PassRun.act scene other).state =
      checks uri scene.state + 0) : before ++ begins uri scene (PassRun.act scene other) = before := by
    rw [begins_eq same, List.replicate_zero, List.append_nil]
  cases deed with
  | schedule other =>
    have same : before ++ (Deed.schedule other).beginnings uri scene = before := quiet _ rfl
    have coming := Timeline.coming_begin scene.timeline scene.state.delay
      (Event.expire (scene.state.schedule.issued + 1))
    have ends : (Timeline.ends (PassRun.act scene (.schedule other)).timeline.coming).Perm
        (Timeline.ends scene.timeline.coming) := coming.filter _
    rw [free] at ends
    rw [same]
    refine ⟨onTime.schedule positive other fun own => untied _ rfl ?_, rfl, ends.eq_nil⟩
    simp [Event.overrules, own]
  | cancel other =>
    have same : before ++ (Deed.cancel other).beginnings uri scene = before := quiet _ rfl
    rw [same]
    refine ⟨onTime.cancel other fun own => untied _ rfl ?_, rfl, free⟩
    simp [Event.overrules, own]
  | shutDown =>
    have same : before ++ Deed.shutDown.beginnings uri scene = before := quiet _ rfl
    rw [same]
    exact ⟨onTime.shutDown (untied _ rfl rfl), rfl, free⟩
  | plan other plan =>
    have same : before ++ (Deed.plan other plan).beginnings uri scene = before := quiet _ rfl
    rw [same, Deed.call?, Option.toList, List.map_nil, List.append_nil]
    exact ⟨⟨onTime.proper, onTime.debounced.congr rfl onTime.debounced.sound rfl rfl rfl⟩, rfl,
      free⟩
  | wait time =>
    rw [Deed.call?, Option.toList, List.map_nil, List.append_nil]
    exact onTime.pass free time

theorem play (onTime : OnTime delay uri earlier before scene) (positive : 0 < delay)
    (free : Timeline.ends scene.timeline.coming = []) (deeds : List (Deed τ δ))
    (untied : Untied delay uri (earlier ++ calls scene.timeline.now deeds)) :
    OnTime delay uri (earlier ++ calls scene.timeline.now deeds)
        (before ++ begun uri scene deeds) (play scene deeds) ∧
      (PassRun.play scene deeds).timeline.now = ending scene.timeline.now deeds := by
  induction deeds generalizing scene earlier before with
  | nil =>
    rw [calls, begun, List.append_nil, List.append_nil]
    exact ⟨onTime, rfl⟩
  | cons deed later inductionHypothesis =>
    -- Nothing is to start now, since it would still be to start now after all later calls.
    have first : ∀ call ∈ deed.call?, call.overrules uri →
        scene.timeline.now ∉ starts delay uri earlier := by
      intro call called concerns
      rw [calls, Option.mem_def.mp called] at untied
      refine untied.not_mem_starts (fun other member => ?_) concerns
      have instant : deed.done scene.timeline.now = scene.timeline.now := by
        cases deed with
        | schedule _ | cancel _ | shutDown | plan _ _ => rfl
        | wait _ => cases called
      exact instant ▸ le_of_mem_calls member
    rcases onTime.act positive free deed first with ⟨done, now, stillFree⟩
    rw [calls, ← List.append_assoc, ← now] at untied
    rw [calls, begun, ← List.append_assoc, ← List.append_assoc, ← now]
    rcases inductionHypothesis done stillFree untied with ⟨whole, last⟩
    refine ⟨whole, last.trans ?_⟩
    rw [now]
    rfl

end OnTime

/-- Whatever is done, the checks of a document that have begun are those that its calls want, in
their order and each at its time; missing is at most the one whose time is still to come.  A burst of
requests, after which the document is left alone, is followed by one check. -/
theorem checks_are_debounced (delay : τ) (positive : 0 < delay) (start : τ) (otherwise : Plan τ δ)
    (deeds : List (Deed τ δ)) (uri : String) (untied : Untied delay uri (calls start deeds)) :
    let first := opening delay start otherwise
    let scene := play first deeds
    let now := ending start deeds
    let started := begun uri first deeds
    let wanted := starts delay uri (calls start deeds)
    scene.timeline.now = now ∧
      checks uri scene.state = started.length ∧
      (∀ time ∈ started, time ≤ now) ∧
      (wanted = started ∨ ∃ time, now ≤ time ∧ wanted = started ++ [time]) ∧
      ∀ earlier burst later first last, calls start deeds = earlier ++ (burst ++ later) →
        Burst delay uri first last burst → LeftAlone uri (last + delay) later →
          ∃ kept, kept.Sublist (starts delay uri earlier) ∧
            wanted = kept ++ (last + delay) :: starts delay uri later := by
  intro first scene now started wanted
  rcases (onTime_opening delay start otherwise uri).play positive rfl deeds untied with
    ⟨onTime, arrived⟩
  rw [List.nil_append, List.nil_append] at onTime
  have past := onTime.debounced.past
  have all := onTime.debounced.begun_or
  rw [arrived] at past all
  refine ⟨arrived, onTime.debounced.counted, past, all, ?_⟩
  intro earlier burst later first last split isBurst alone
  rcases exists_starts_append delay uri earlier (burst ++ later) with ⟨kept, less, same⟩
  refine ⟨kept, less, ?_⟩
  rw [isBurst.starts_append alone, ← split] at same
  exact same

/-- Edits of a document whose first check takes long. -/
def edits : List (Deed Nat Unit) :=
  [.plan "a" ⟨some 20, .found ()⟩, .schedule "a", .wait 6, .schedule "a", .wait 3, .schedule "a",
    .cancel "b", .wait 10]

/-- The last two edits are followed by one check, though the first check is still running. -/
theorem edits_are_checked_beside_a_check :
    0 < 5 ∧ Untied 5 "a" (calls 0 edits) ∧
      begun "a" (opening 5 0 ⟨none, .gone⟩) edits = [5, 14] := by
  have positive : 0 < 5 := by decide
  have untied : Untied 5 "a" (calls 0 edits) := by decide
  have wanted : starts 5 "a" (calls 0 edits) = [5, 14] := by decide
  have now : ending 0 edits = 19 := by decide
  rcases checks_are_debounced 5 positive 0 ⟨none, .gone⟩ edits "a" untied with ⟨_, _, _, all, _⟩
  rw [wanted, now] at all
  refine ⟨positive, untied, ?_⟩
  rcases all with same | ⟨time, late, split⟩
  · exact same.symm
  · have last : [5, 14].getLast? = some time := by
      rw [split, List.getLast?_concat]
    obtain rfl : 14 = time := Option.some.inj last
    exact absurd late (by decide)

end PassRun

end HomeConfig
