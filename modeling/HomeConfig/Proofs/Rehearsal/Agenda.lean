import HomeConfig.Rehearsal.Agenda
import Mathlib.Data.List.Perm.Basic
import Mathlib.Order.Lattice

/-!
# What an agenda gives out

The next event of an agenda is never later than any other, because the agenda is a heap: no event is
earlier than the one above it (`Ordered`).  While an event rises or sinks that is not so at its place.
What is needed meanwhile is that the events below the place are not earlier than the one above it
(`Rises`, `Sinks`).

Nothing is lost and nothing is doubled: what has been entered is taken out once, in whatever order,
so all statements about contents are permutations of lists.
-/

namespace HomeConfig

namespace Agenda

variable {τ ε : Type}

/-! ## Exchanging two events -/

section Exchange

variable {events : Array (τ × ε)} {first second : Nat}

theorem getElem?_exchange_first (firstIn : first < events.size) (secondIn : second < events.size) :
    (events.swapIfInBounds first second)[first]? = events[second]? := by
  rw [Array.swapIfInBounds_def, dif_pos firstIn, dif_pos secondIn, Array.getElem?_swap]
  split
  · next same => simp [same]
  · simp [secondIn]

theorem getElem?_exchange_second (firstIn : first < events.size) (secondIn : second < events.size) :
    (events.swapIfInBounds first second)[second]? = events[first]? := by
  rw [Array.swapIfInBounds_def, dif_pos firstIn, dif_pos secondIn, Array.getElem?_swap]
  simp [firstIn]

theorem getElem?_exchange_of_ne {place : Nat} (notFirst : place ≠ first) (notSecond : place ≠ second) :
    (events.swapIfInBounds first second)[place]? = events[place]? := by
  rw [Array.swapIfInBounds_def]
  split
  · split
    · rw [Array.getElem?_swap, if_neg (Ne.symm notSecond), if_neg (Ne.symm notFirst)]
    · rfl
  · rfl

theorem exchange_perm (events : Array (τ × ε)) (first second : Nat) :
    (events.swapIfInBounds first second).toList.Perm events.toList := by
  rw [Array.swapIfInBounds_def]
  split
  · split
    · exact (Array.swap_perm _ _).toList
    · exact List.Perm.refl _
  · exact List.Perm.refl _

end Exchange

variable [LinearOrder τ]

/-- The first of two events is not later than the second, if both are there. -/
def NotAfter (first second : Option (τ × ε)) : Prop :=
  ∀ x ∈ first, ∀ y ∈ second, x.1 ≤ y.1

theorem NotAfter.trans {first second third : Option (τ × ε)} {middle : τ × ε}
    (there : second = some middle) (left : NotAfter first second) (right : NotAfter second third) :
    NotAfter first third := by
  intro x isFirst y isThird
  exact le_trans (left x isFirst middle there) (right middle there y isThird)

theorem NotAfter.refl (event : Option (τ × ε)) : NotAfter event event := by
  intro x here y there
  rw [Option.mem_unique here there]

theorem NotAfter.of_size_le {events : Array (τ × ε)} (first : Option (τ × ε)) {place : Nat}
    (outside : events.size ≤ place) : NotAfter first events[place]? := by
  intro _ _ event there
  rw [Array.getElem?_eq_none outside] at there
  cases there

/-- No event is earlier than the one above it. -/
def Ordered (events : Array (τ × ε)) : Prop :=
  ∀ place, 0 < place → NotAfter events[(place - 1) / 2]? events[place]?

/-! ## Rising -/

/-- All is in order but the event at a place, which may be earlier than the one above it. -/
structure Rises (events : Array (τ × ε)) (place : Nat) : Prop where
  others : ∀ other, 0 < other → other ≠ place → NotAfter events[(other - 1) / 2]? events[other]?
  across : 0 < place → ∀ other, 0 < other → (other - 1) / 2 = place →
    NotAfter events[(place - 1) / 2]? events[other]?

/-- An event that changes places with a later one above it is in order below, and rises on. -/
theorem Rises.exchange {events : Array (τ × ε)} {place : Nat} (rises : Rises events place)
    (below : 0 < place) {event upper : τ × ε} (here : events[place]? = some event)
    (there : events[(place - 1) / 2]? = some upper) (earlier : event.1 < upper.1) :
    Rises (events.swapIfInBounds place ((place - 1) / 2)) ((place - 1) / 2) := by
  have placeIn := (Array.getElem?_eq_some_iff.mp here).1
  have aboveIn := (Array.getElem?_eq_some_iff.mp there).1
  have placeNow := getElem?_exchange_first placeIn aboveIn
  have aboveNow := getElem?_exchange_second placeIn aboveIn
  have pushed : NotAfter events[place]? events[(place - 1) / 2]? := by
    rw [here, there]
    rintro _ ⟨⟩ _ ⟨⟩
    exact le_of_lt earlier
  constructor
  -- Below the exchange stand the place itself, the events below it, and the one beside it.
  · intro other positive different
    by_cases same : other = place
    · subst same
      rw [placeNow, aboveNow]
      exact pushed
    · rw [getElem?_exchange_of_ne same different]
      by_cases child : (other - 1) / 2 = place
      · rw [child, placeNow]
        exact rises.across below other positive child
      · by_cases sibling : (other - 1) / 2 = (place - 1) / 2
        · have kept := rises.others other positive same
          rw [sibling] at kept ⊢
          rw [aboveNow]
          exact pushed.trans there kept
        · rw [getElem?_exchange_of_ne child sibling]
          exact rises.others other positive same
  · intro aboveBelow other positive child
    have top := rises.others ((place - 1) / 2) aboveBelow (by omega)
    rw [getElem?_exchange_of_ne (by omega) (by omega)]
    by_cases same : other = place
    · subst same
      rw [placeNow]
      exact top
    · have kept := rises.others other positive same
      rw [getElem?_exchange_of_ne same (by omega)]
      rw [child] at kept
      exact top.trans there kept

/-- An event that is not earlier than the one above it has risen far enough. -/
theorem Rises.ordered {events : Array (τ × ε)} {place : Nat} (rises : Rises events place)
    (fits : 0 < place → NotAfter events[(place - 1) / 2]? events[place]?) : Ordered events := by
  intro other positive
  by_cases same : other = place
  · subst same
    exact fits positive
  · exact rises.others other positive same

theorem Rises.ordered_rise {events : Array (τ × ε)} {place : Nat} (rises : Rises events place) :
    Ordered (rise events place) := by
  fun_induction rise events place with
  | case1 events => exact rises.ordered fun positive => absurd positive (Nat.lt_irrefl 0)
  | case2 events place below above time event upper other there here earlier ih =>
    exact ih (rises.exchange (Nat.pos_of_ne_zero below) here there earlier)
  | case3 events place below above time event upper other there here late =>
    refine rises.ordered fun _ => ?_
    rw [here, there]
    rintro _ ⟨⟩ _ ⟨⟩
    exact le_of_not_gt late
  | case4 events place below above missing =>
    refine rises.ordered fun _ => ?_
    intro upper there event here
    exact (missing event.1 event.2 upper.1 upper.2 here there).elim

theorem rise_perm (events : Array (τ × ε)) (place : Nat) :
    (rise events place).toList.Perm events.toList := by
  fun_induction rise events place with
  | case1 events => exact List.Perm.refl _
  | case2 events place below above time event upper other there here earlier ih =>
    exact ih.trans (exchange_perm events place above)
  | case3 => exact List.Perm.refl _
  | case4 => exact List.Perm.refl _

/-! ## Sinking -/

/-- All is in order but the event at a place, which may be earlier than the one above it and later
than those below it. -/
structure Sinks (events : Array (τ × ε)) (place : Nat) : Prop where
  others : ∀ other, 0 < other → other ≠ place → (other - 1) / 2 ≠ place →
    NotAfter events[(other - 1) / 2]? events[other]?
  across : 0 < place → ∀ other, 0 < other → (other - 1) / 2 = place →
    NotAfter events[(place - 1) / 2]? events[other]?

/-- The place below that an event sinks to holds an event that is not later than the others below. -/
theorem below?_eq_some {events : Array (τ × ε)} {place lower : Nat}
    (found : below? events place = some lower) :
    0 < lower ∧ (lower - 1) / 2 = place ∧ lower < events.size ∧
      ∀ other, 0 < other → (other - 1) / 2 = place → NotAfter events[lower]? events[other]? := by
  have children : ∀ other, 0 < other → (other - 1) / 2 = place →
      other = 2 * place + 1 ∨ other = 2 * place + 2 := by
    intro other positive child
    omega
  unfold below? at found
  split at found
  · next first _ second _ left right =>
    have leftIn := (Array.getElem?_eq_some_iff.mp left).1
    have rightIn := (Array.getElem?_eq_some_iff.mp right).1
    by_cases earlier : first < second
    · obtain rfl : 2 * place + 1 = lower := by simpa [earlier] using found
      refine ⟨by omega, by omega, leftIn, fun other positive child => ?_⟩
      rcases children other positive child with rfl | rfl
      · exact NotAfter.refl _
      · rw [left, right]
        rintro _ ⟨⟩ _ ⟨⟩
        exact le_of_lt earlier
    · obtain rfl : 2 * place + 2 = lower := by simpa [earlier] using found
      refine ⟨by omega, by omega, rightIn, fun other positive child => ?_⟩
      rcases children other positive child with rfl | rfl
      · rw [left, right]
        rintro _ ⟨⟩ _ ⟨⟩
        exact le_of_not_gt earlier
      · exact NotAfter.refl _
  · next first _ left right =>
    obtain rfl : 2 * place + 1 = lower := by simpa using found
    refine ⟨by omega, by omega, (Array.getElem?_eq_some_iff.mp left).1,
      fun other positive child => ?_⟩
    rcases children other positive child with rfl | rfl
    · exact NotAfter.refl _
    · rw [right]
      rintro _ _ _ ⟨⟩
  · cases found

theorem below?_eq_none {events : Array (τ × ε)} {place : Nat} (found : below? events place = none) :
    events.size ≤ 2 * place + 1 := by
  unfold below? at found
  split at found
  · cases found
  · cases found
  · next missing => simpa using missing

/-- An event that changes places with the earlier one below it sinks on. -/
theorem Sinks.exchange {events : Array (τ × ε)} {place lower : Nat} (sinks : Sinks events place)
    (inside : place < events.size) (found : below? events place = some lower) :
    Sinks (events.swapIfInBounds place lower) lower := by
  rcases below?_eq_some found with ⟨positive, child, lowerIn, earliest⟩
  have placeNow := getElem?_exchange_first inside lowerIn
  have lowerNow := getElem?_exchange_second inside lowerIn
  constructor
  · intro other otherPositive different apart
    by_cases same : other = place
    · subst same
      rw [placeNow, getElem?_exchange_of_ne (by omega) apart]
      exact sinks.across otherPositive lower positive child
    · rw [getElem?_exchange_of_ne same different]
      by_cases sibling : (other - 1) / 2 = place
      · rw [sibling, placeNow]
        exact earliest other otherPositive sibling
      · rw [getElem?_exchange_of_ne sibling apart]
        exact sinks.others other otherPositive same sibling
  · intro _ other otherPositive grandchild
    rw [child, placeNow, getElem?_exchange_of_ne (by omega) (by omega), ← grandchild]
    exact sinks.others other otherPositive (by omega) (by omega)

/-- At the bottom an event can only rise. -/
theorem Sinks.rises {events : Array (τ × ε)} {place : Nat} (sinks : Sinks events place)
    (bottom : events.size ≤ 2 * place + 1) : Rises events place where
  others := by
    intro other positive different
    by_cases child : (other - 1) / 2 = place
    · exact NotAfter.of_size_le _ (by omega)
    · exact sinks.others other positive different child
  across := sinks.across

theorem Sinks.ordered_sink {bound : Nat} {events : Array (τ × ε)} {place : Nat}
    (sinks : Sinks events place) (inside : place < events.size)
    (enough : events.size ≤ place + bound) : Ordered (sink bound events place) := by
  fun_induction sink bound events place with
  | case1 events place => exact (sinks.rises (by omega)).ordered_rise
  | case2 bound events place lower found ih =>
    rcases below?_eq_some found with ⟨positive, child, lowerIn, _⟩
    refine ih (sinks.exchange inside found) ?_ ?_
    · rw [Array.size_swapIfInBounds]
      exact lowerIn
    · rw [Array.size_swapIfInBounds]
      omega
  | case3 bound events place found =>
    exact (sinks.rises (below?_eq_none found)).ordered_rise

theorem sink_perm (bound : Nat) (events : Array (τ × ε)) (place : Nat) :
    (sink bound events place).toList.Perm events.toList := by
  fun_induction sink bound events place with
  | case1 events place => exact rise_perm events place
  | case2 bound events place lower found ih => exact ih.trans (exchange_perm events place lower)
  | case3 bound events place found => exact rise_perm events place

/-! ## Entering and taking out -/

/-- All events of an agenda. -/
def contents (agenda : Agenda τ ε) : List (τ × ε) :=
  agenda.events.toList

theorem add_perm (agenda : Agenda τ ε) (time : τ) (event : ε) :
    (agenda.add time event).contents.Perm ((time, event) :: agenda.contents) := by
  refine (rise_perm _ _).trans ?_
  rw [Array.toList_push]
  exact List.perm_append_singleton _ _

theorem ordered_add {agenda : Agenda τ ε} (ordered : Ordered agenda.events) (time : τ) (event : ε) :
    Ordered (agenda.add time event).events := by
  refine Rises.ordered_rise ⟨fun other positive different => ?_, fun _ other positive child => ?_⟩
  · by_cases inside : other < agenda.events.size
    · rw [Array.getElem?_push_lt inside, ← Array.getElem?_eq_getElem inside,
        Array.getElem?_push_lt (by omega), ← Array.getElem?_eq_getElem (by omega)]
      exact ordered other positive
    · exact NotAfter.of_size_le _ (by rw [Array.size_push]; omega)
  · exact NotAfter.of_size_le _ (by rw [Array.size_push]; omega)

/-- When the first of several events is taken out, the last one takes its place and sinks. -/
theorem tail_of_several (first : τ × ε) (middle : List (τ × ε)) (last : τ × ε) :
    tail ⟨(first :: middle ++ [last]).toArray⟩ =
      ⟨sink (middle.length + 1) (last :: middle).toArray 0⟩ := by
  have final : (first :: middle ++ [last]).toArray.back? = some last := by
    rw [List.back?_toArray, List.getLast?_concat]
  have rest : (first :: middle ++ [last]).toArray.pop = (first :: middle).toArray := by
    rw [List.pop_toArray, List.dropLast_concat]
  simp only [tail, final, rest]
  simp

theorem tail_perm {agenda : Agenda τ ε} {next : τ × ε} (found : agenda.head? = some next) :
    agenda.contents.Perm (next :: agenda.tail.contents) := by
  rcases agenda with ⟨⟨events⟩⟩
  cases events with
  | nil => cases found
  | cons first events =>
    obtain rfl : first = next := by simpa [head?] using found
    rcases List.eq_nil_or_concat events with rfl | ⟨middle, last, rfl⟩
    · exact List.Perm.refl _
    · rw [List.concat_eq_append, ← List.cons_append, tail_of_several]
      have moved : (middle ++ [last]).Perm (last :: middle) := List.perm_append_singleton last middle
      exact (moved.trans (sink_perm _ _ 0).symm).cons first

theorem ordered_tail {agenda : Agenda τ ε} (ordered : Ordered agenda.events) :
    Ordered agenda.tail.events := by
  rcases agenda with ⟨⟨events⟩⟩
  cases events with
  | nil => exact ordered
  | cons first events =>
    rcases List.eq_nil_or_concat events with rfl | ⟨middle, last, rfl⟩
    · rintro place _ _ _ _ ⟨⟩
    · rw [List.concat_eq_append, ← List.cons_append, tail_of_several]
      -- All but the top is as it was, so only the event that has been moved there may have to sink.
      refine Sinks.ordered_sink ⟨fun other positive _ child => ?_, fun positive => ?_⟩ ?_ ?_
      · by_cases inside : other ≤ middle.length
        · have same : ∀ place, 0 < place → place ≤ middle.length →
              (last :: middle).toArray[place]? = (first :: middle ++ [last]).toArray[place]? := by
            intro place later fits
            cases place with
            | zero => cases later
            | succ place => simp [List.getElem?_append_left (show place < middle.length by omega)]
          rw [same other positive inside, same ((other - 1) / 2) (by omega) (by omega)]
          rw [List.concat_eq_append] at ordered
          exact ordered other positive
        · exact NotAfter.of_size_le _ (by simp; omega)
      · exact absurd positive (Nat.lt_irrefl 0)
      · simp
      · simp

theorem notAfter_first {events : Array (τ × ε)} (ordered : Ordered events) (place : Nat)
    (inside : place < events.size) : NotAfter events[0]? events[place]? := by
  -- The way up from a place to the top is a chain of events none of which is earlier.
  induction place using Nat.strongRecOn with
  | ind place inductionHypothesis =>
    by_cases bottom : place = 0
    · rw [bottom]
      exact NotAfter.refl _
    · have above : (place - 1) / 2 < events.size := by omega
      exact (inductionHypothesis _ (by omega) above).trans (Array.getElem?_eq_getElem above)
        (ordered place (Nat.pos_of_ne_zero bottom))

/-- No event is earlier than the next one. -/
theorem head?_le {agenda : Agenda τ ε} (ordered : Ordered agenda.events) {next : τ × ε}
    (found : agenda.head? = some next) : ∀ event ∈ agenda.contents, next.1 ≤ event.1 := by
  intro event member
  rcases List.mem_iff_getElem?.mp member with ⟨place, there⟩
  rw [Array.getElem?_toList] at there
  have inside := (Array.getElem?_eq_some_iff.mp there).1
  exact notAfter_first ordered place inside next found event there

/-! ## Taking out several -/

/-- Taking out events while the next one is wanted: all that is taken out is wanted, and nothing else
is lost. -/
theorem drop_spec (bound : Nat) {agenda : Agenda τ ε} (ordered : Ordered agenda.events)
    (isWanted : τ × ε → Bool) :
    ∃ taken, (dropWhile.drop isWanted bound agenda).1 = taken.map Prod.snd ∧
      agenda.contents.Perm (taken ++ (dropWhile.drop isWanted bound agenda).2.contents) ∧
      (∀ event ∈ taken, isWanted event) ∧
      Ordered (dropWhile.drop isWanted bound agenda).2.events := by
  induction bound generalizing agenda with
  | zero => exact ⟨[], rfl, List.Perm.refl _, nofun, ordered⟩
  | succ bound inductionHypothesis =>
    rw [dropWhile.drop]
    cases found : agenda.head? with
    | none => exact ⟨[], rfl, List.Perm.refl _, nofun, ordered⟩
    | some next =>
      by_cases wanted : isWanted next
      · rcases inductionHypothesis (ordered_tail ordered) with ⟨taken, events, same, all, rest⟩
        simp only [wanted, if_true]
        refine ⟨next :: taken, ?_, ?_, ?_, rest⟩
        · simp [events]
        · exact (tail_perm found).trans (same.cons next)
        · simpa [wanted] using all
      · simp only [wanted]
        exact ⟨[], rfl, List.Perm.refl _, nofun, ordered⟩

theorem drop_ne_nil (bound : Nat) {agenda : Agenda τ ε} (isWanted : τ × ε → Bool) {next : τ × ε}
    (found : agenda.head? = some next) (wanted : isWanted next = true) :
    (dropWhile.drop isWanted (bound + 1) agenda).1 ≠ [] := by
  simp [dropWhile.drop, found, wanted]

/-- Striking out void events loses no other one. -/
theorem purge_spec {agenda : Agenda τ ε} (ordered : Ordered agenda.events) (isLive : ε → Bool) :
    (∃ void, agenda.contents.Perm (void ++ (agenda.purge isLive).contents) ∧
      ∀ event ∈ void, isLive event.2 = false) ∧
    Ordered (agenda.purge isLive).events := by
  rcases drop_spec agenda.events.size ordered fun event => !isLive event.2 with
    ⟨void, _, same, all, rest⟩
  exact ⟨⟨void, same, fun event member => by simpa using all event member⟩, rest⟩

theorem contents_eq_nil_of_next? {agenda : Agenda τ ε} (nothing : agenda.next? = none) :
    agenda.contents = [] := by
  have missing : agenda.events[0]? = none := by simpa [next?, head?] using nothing
  simpa [contents] using missing

/-- What comes next: all of it is for the earliest time there is, and nothing else is lost. -/
theorem next?_spec {agenda rest : Agenda τ ε} (ordered : Ordered agenda.events) {time : τ}
    {due : List ε} (found : agenda.next? = some (time, due, rest)) :
    due ≠ [] ∧ agenda.contents.Perm (due.map (fun event => (time, event)) ++ rest.contents) ∧
      (∀ event ∈ agenda.contents, time ≤ event.1) ∧ Ordered rest.events := by
  rcases Option.map_eq_some_iff.mp found with ⟨⟨first, event⟩, here, shape⟩
  obtain ⟨rfl, taking⟩ : first = time ∧
      agenda.dropWhile (fun other => !decide (first < other.1)) = (due, rest) := by
    simpa using shape
  have least := head?_le ordered here
  rcases drop_spec agenda.events.size ordered fun other => !decide (first < other.1) with
    ⟨taken, events, same, all, kept⟩
  unfold dropWhile at taking
  rw [taking] at events same kept
  refine ⟨?_, ?_, least, kept⟩
  -- The next event is itself not later than its time, so at least that one is taken out.
  · have inside : 0 < agenda.events.size := (Array.getElem?_eq_some_iff.mp here).1
    obtain ⟨bound, size⟩ := Nat.exists_eq_succ_of_ne_zero (Nat.ne_of_gt inside)
    rw [size] at taking
    have nonempty := drop_ne_nil bound (fun other => !decide (first < other.1)) here (by simp)
    rwa [taking] at nonempty
  · have now : taken.map (fun event => (first, event.2)) = taken := by
      refine (List.map_congr_left fun event member => ?_).trans (List.map_id taken)
      have early : event.1 ≤ first := by simpa using all event member
      have late : first ≤ event.1 := least event (same.mem_iff.mpr (List.mem_append_left _ member))
      rw [le_antisymm late early]
      rfl
    have whole : due.map (fun event => (first, event)) = taken := by
      rw [show due = taken.map Prod.snd from events, List.map_map]
      exact now
    rw [whole]
    exact same

end Agenda

end HomeConfig
