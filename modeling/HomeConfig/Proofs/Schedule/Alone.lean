import HomeConfig.Proofs.Schedule.Publication

/-!
# A document by itself

All documents share one schedule: one count of passes, one table of latest passes, one of waiting
ones.  Still each of them is checked as if it were the only one.  Take from a run whatever concerns
other documents: their requests, their ends, and what becomes of their passes (`alone`).  In what is
left the passes of the document start at the same points, end in the same way, and the same results
are published.

The numbers of the passes are different, since the requests for other documents no longer count.
What a pass keeps is which request for its own document it comes from, its `ordinal`; both runs are
compared by that.
-/

namespace HomeConfig

namespace Schedule

variable {δ : Type}

/-! ## Requests of one document -/

/-- The document that something asks to be checked. -/
def Event.asked? : Event δ → Option String
  | .schedule uri => some uri
  | _ => none

/-- The documents that are asked for, request by request. -/
def asked (history : List (Event δ)) : List String :=
  history.filterMap Event.asked?

/-- Whether the pass with a number comes from a request for a document.  Requests are numbered from
one. -/
def Owns (uri : String) (history : List (Event δ)) (number : Nat) : Prop :=
  0 < number ∧ (asked history)[number - 1]? = some uri

instance (uri : String) (history : List (Event δ)) (number : Nat) :
    Decidable (Owns uri history number) :=
  inferInstanceAs (Decidable (_ ∧ _))

/-- Which of the requests for a document the pass with a number comes from. -/
def ordinal (uri : String) (history : List (Event δ)) (number : Nat) : Nat :=
  ((asked history).take number).count uri

theorem asked_concat (history : List (Event δ)) (event : Event δ) :
    asked (history ++ [event]) = asked history ++ event.asked?.toList := by
  rw [asked, asked, List.filterMap_append, List.filterMap_cons]
  cases event.asked? <;> rfl

theorem length_asked (history : List (Event δ)) : (asked history).length = requests history := by
  induction history using List.reverseRecOn with
  | nil => rfl
  | append_singleton history event inductionHypothesis =>
    rw [asked_concat, List.length_append, inductionHypothesis, requests_append]
    cases event <;> rfl

theorem Owns.le {uri : String} {history : List (Event δ)} {number : Nat}
    (owns : Owns uri history number) : number ≤ (asked history).length := by
  have bound := (List.getElem?_eq_some_iff.mp owns.2).1
  omega

/-- What comes later changes nothing about the passes there have been. -/
theorem owns_concat {uri : String} {history : List (Event δ)} {number : Nat} (event : Event δ)
    (bound : number ≤ (asked history).length) :
    Owns uri (history ++ [event]) number ↔ Owns uri history number := by
  refine and_congr_right fun positive => ?_
  rw [asked_concat, List.getElem?_append_left (by omega)]

theorem ordinal_concat {uri : String} {history : List (Event δ)} {number : Nat} (event : Event δ)
    (bound : number ≤ (asked history).length) :
    ordinal uri (history ++ [event]) number = ordinal uri history number := by
  rw [ordinal, ordinal, asked_concat, List.take_append_of_le_length bound]

/-- The newest request. -/
theorem owns_newest (uri other : String) (history : List (Event δ)) :
    Owns uri (history ++ [.schedule other]) ((asked history).length + 1) ↔ other = uri := by
  simp [Owns, asked_concat, Event.asked?]

theorem ordinal_newest (uri : String) (history : List (Event δ)) :
    ordinal uri (history ++ [.schedule uri]) ((asked history).length + 1) =
      (asked history).count uri + 1 := by
  rw [ordinal, asked_concat, List.take_of_length_le (by simp [Event.asked?]), List.count_append]
  simp [Event.asked?]

theorem ordinal_lt_ordinal {uri : String} {history : List (Event δ)} {first second : Nat}
    (owns : Owns uri history second) (earlier : first < second) :
    ordinal uri history first < ordinal uri history second := by
  have last : (asked history).take second =
      (asked history).take (second - 1) ++ [uri] := by
    have step : (asked history).take (second - 1 + 1) = _ := List.take_add_one
    rw [Nat.sub_add_cancel owns.1, owns.2] at step
    exact step
  have before : ((asked history).take first).count uri ≤
      ((asked history).take (second - 1)).count uri :=
    (List.take_sublist_take_left (by omega)).count_le uri
  rw [ordinal, ordinal, last, List.count_append, List.count_singleton_self]
  omega

/-- Two passes of a document never come from the same one of its requests. -/
theorem ordinal_inj {uri : String} {history : List (Event δ)} {first second : Nat}
    (ownsFirst : Owns uri history first) (ownsSecond : Owns uri history second) :
    ordinal uri history first = ordinal uri history second ↔ first = second := by
  refine ⟨fun same => ?_, fun same => by rw [same]⟩
  rcases Nat.lt_trichotomy first second with earlier | equal | later
  · exact absurd same (Nat.ne_of_lt (ordinal_lt_ordinal ownsSecond earlier))
  · exact equal
  · exact absurd same.symm (Nat.ne_of_lt (ordinal_lt_ordinal ownsFirst later))

/-! ## The run of one document -/

/-- What an event is for a document alone: nothing if it concerns another one, and otherwise the
same with the number its pass has then. -/
def alone? (uri : String) (history : List (Event δ)) : Event δ → Option (Event δ)
  | .schedule other => if other = uri then some (.schedule uri) else none
  | .cancel other => if other = uri then some (.cancel uri) else none
  | .expire number =>
    if Owns uri history number then some (.expire (ordinal uri history number)) else none
  | .complete number outcome =>
    if Owns uri history number then some (.complete (ordinal uri history number) outcome) else none
  | .shutDown => some .shutDown

/-- What is left of some events, which come after others, for a document alone. -/
def aloneFrom (uri : String) (earlier : List (Event δ)) : List (Event δ) → List (Event δ)
  | [] => []
  | event :: later =>
    (alone? uri earlier event).toList ++ aloneFrom uri (earlier ++ [event]) later

/-- What is left of a run for a document alone. -/
def alone (uri : String) (history : List (Event δ)) : List (Event δ) :=
  aloneFrom uri [] history

theorem aloneFrom_concat (uri : String) (earlier history : List (Event δ)) (event : Event δ) :
    aloneFrom uri earlier (history ++ [event]) =
      aloneFrom uri earlier history ++ (alone? uri (earlier ++ history) event).toList := by
  induction history generalizing earlier with
  | nil => simp [aloneFrom]
  | cons first later inductionHypothesis =>
    rw [List.cons_append, aloneFrom, aloneFrom, inductionHypothesis, List.append_assoc,
      List.append_assoc, List.singleton_append]

theorem alone_concat (uri : String) (history : List (Event δ)) (event : Event δ) :
    alone uri (history ++ [event]) = alone uri history ++ (alone? uri history event).toList := by
  rw [alone, aloneFrom_concat, List.nil_append, alone]

/-- Left alone, a document is asked for as often as before, and no other one is. -/
theorem asked_alone (uri : String) (history : List (Event δ)) :
    asked (alone uri history) = List.replicate ((asked history).count uri) uri := by
  induction history using List.reverseRecOn with
  | nil => rfl
  | append_singleton history event inductionHypothesis =>
    have kept : asked (alone? uri history event).toList =
        List.replicate (event.asked?.toList.count uri) uri := by
      cases event with
      | schedule other => by_cases same : other = uri <;> simp [alone?, asked, Event.asked?, same]
      | cancel other => by_cases same : other = uri <;> simp [alone?, asked, Event.asked?, same]
      | expire number =>
        by_cases owns : Owns uri history number <;> simp [alone?, asked, Event.asked?, owns]
      | complete number outcome =>
        by_cases owns : Owns uri history number <;> simp [alone?, asked, Event.asked?, owns]
      | shutDown => rfl
    rw [alone_concat, asked_concat, List.count_append, List.replicate_add, ← inductionHypothesis,
      ← kept]
    exact List.filterMap_append

/-- Alone, every pass is a pass of the document, and its number counts its requests. -/
theorem ordinal_alone {uri : String} {history : List (Event δ)} {number : Nat}
    (bound : number ≤ (asked history).count uri) :
    ordinal uri (alone uri history) number = number := by
  rw [ordinal, asked_alone, List.take_replicate, List.count_replicate_self, Nat.min_eq_left bound]

/-! ## What becomes of the passes of a document -/

/-- What can become of a pass. -/
inductive Turn (δ : Type)
  /-- Its check begins. -/
  | starts
  /-- Its result is published. -/
  | publishes (result : δ)
  /-- Its result is discarded, since another pass stands for the document. -/
  | discards
  /-- Its check fails. -/
  | fails
  /-- Its check finds the document gone. -/
  | lapses
  /-- It is taken away. -/
  | cancelled

/-- What has become of a pass that is no longer there, by what happened and what was done. -/
def ending (effects : List (Effect δ)) : Event δ → Turn δ
  | .complete _ _ =>
    match effects with
    | .conclude (.publish _ result) :: _ => .publishes result
    | .conclude (.report (.passSuperseded _)) :: _ => .discards
    | .conclude (.report _) :: _ => .fails
    | _ => .lapses
  | _ => .cancelled

/-- What becomes of a pass when something happens; nothing if it stays as it is. -/
def turn? (state : Schedule) (event : Event δ) (pass : Pass) : Option (Turn δ) :=
  if pass ∈ (state.next event).passes then none
  else if { pass with phase := .running } ∈ (state.next event).passes then some .starts
  else some (ending (state.step event).1 event)

/-- The passes of a document. -/
def passesOf (uri : String) (state : Schedule) : List Pass :=
  state.passes.filter fun pass => pass.uri = uri

/-- The passes of a document after a run, by the requests they come from, and how far they have
come. -/
def standing (uri : String) (history : List (Event δ)) : List (Nat × Pass.Phase) :=
  (passesOf uri (empty.after history)).map fun pass =>
    (ordinal uri history pass.number, pass.phase)

/-- What becomes of the passes of a document when something happens after a run. -/
def turns (uri : String) (history : List (Event δ)) (event : Event δ) : List (Nat × Turn δ) :=
  (passesOf uri (empty.after history)).filterMap fun pass =>
    ((empty.after history).turn? event pass).map fun turn =>
      (ordinal uri history pass.number, turn)

/-- A publication for a document, by the request it comes from. -/
def publishedAs? (uri : String) (history : List (Event δ)) (publication : Publication δ) :
    Option (Nat × δ) :=
  if publication.uri = uri then
    some (ordinal uri history publication.number, publication.result)
  else none

/-- What is published for a document in a run, by the requests it comes from. -/
def publishedFor (uri : String) (history : List (Event δ)) : List (Nat × δ) :=
  (publications empty history).filterMap (publishedAs? uri history)

/-! ## Passes belong to requests -/

theorem issued_eq_length_asked (history : List (Event δ)) :
    (empty.after history).issued = (asked history).length := by
  rw [issued_after_empty, length_asked]

/-- Every pass comes from a request for its document. -/
theorem owns_of_mem {history : List (Event δ)} {pass : Pass}
    (member : pass ∈ (empty.after history).passes) : Owns pass.uri history pass.number := by
  induction history using List.reverseRecOn generalizing pass with
  | nil => cases member
  | append_singleton history event inductionHypothesis =>
    rw [after_concat] at member
    rcases (change_next _ event).pass_mem member with ⟨old, present, number, uri⟩ | ⟨asks, number⟩
    · have owns := inductionHypothesis present
      rw [← number, ← uri]
      exact (owns_concat event owns.le).mpr owns
    · rw [asks, number, issued_eq_length_asked]
      exact (owns_newest _ _ _).mpr rfl

/-- So does the latest pass of a document. -/
theorem owns_of_latest {uri : String} {history : List (Event δ)} {number : Nat}
    (latest : (empty.after history).latest.find? uri = some number) : Owns uri history number := by
  rcases (latest_after_iff history uri number).mp latest with ⟨earlier, later, rfl, rfl, _⟩
  refine ⟨Nat.succ_pos _, ?_⟩
  have split : asked (earlier ++ .schedule uri :: later) = asked earlier ++ uri :: asked later := by
    rw [asked, List.filterMap_append]
    rfl
  rw [split, Nat.add_sub_cancel, ← length_asked, List.getElem?_append_right (Nat.le_refl _),
    Nat.sub_self, List.getElem?_cons_zero]

theorem Owns.uri_eq {first second : String} {history : List (Event δ)} {number : Nat}
    (ownsFirst : Owns first history number) (ownsSecond : Owns second history number) :
    first = second :=
  Option.some.inj (ownsFirst.2.symm.trans ownsSecond.2)

theorem owns_of_pending {uri : String} {history : List (Event δ)} {number : Nat}
    (pending : (empty.after history).pending.find? uri = some number) : Owns uri history number :=
  owns_of_mem (((sound_after history).waiting_iff uri number).mp pending)

/-! ## The passes of a document, alone and among others -/

theorem mem_passesOf {uri : String} {state : Schedule} {pass : Pass} :
    pass ∈ passesOf uri state ↔ pass ∈ state.passes ∧ pass.uri = uri := by
  rw [passesOf, List.mem_filter, decide_eq_true_iff]

theorem owns_of_mem_passesOf {uri : String} {history : List (Event δ)} {pass : Pass}
    (own : pass ∈ passesOf uri (empty.after history)) :
    Owns uri history pass.number := by
  rcases mem_passesOf.mp own with ⟨member, rfl⟩
  exact owns_of_mem member

/-- A pass of a document as it is numbered when the document is alone. -/
def renumbered (uri : String) (history : List (Event δ)) (pass : Pass) : Pass :=
  { pass with number := ordinal uri history pass.number }

/-- The schedule of a document alone holds what the schedule of all documents holds of it. -/
structure Mirrors (uri : String) (history : List (Event δ)) : Prop where
  passes : (empty.after (alone uri history)).passes =
    (passesOf uri (empty.after history)).map (renumbered uri history)
  latest : (empty.after (alone uri history)).latest.find? uri =
    ((empty.after history).latest.find? uri).map (ordinal uri history)
  pending : (empty.after (alone uri history)).pending.find? uri =
    ((empty.after history).pending.find? uri).map (ordinal uri history)

theorem issued_alone (uri : String) (history : List (Event δ)) :
    (empty.after (alone uri history)).issued = (asked history).count uri := by
  rw [issued_eq_length_asked, asked_alone, List.length_replicate]

theorem renumbered_inj {uri : String} {history : List (Event δ)} {first second : Pass}
    (ownsFirst : Owns uri history first.number) (ownsSecond : Owns uri history second.number) :
    renumbered uri history first = renumbered uri history second ↔ first = second := by
  refine ⟨fun same => ?_, fun same => by rw [same]⟩
  have number := (ordinal_inj ownsFirst ownsSecond).mp (congrArg Pass.number same)
  cases first
  cases second
  simp_all [renumbered]

/-- Leaving out a pass of the document is the same before and after renumbering. -/
theorem map_renumbered_without {uri : String} {history : List (Event δ)} {number : Option Nat}
    {passes : List Pass} (owned : ∀ pass ∈ passes, Owns uri history pass.number)
    (own : ∀ one, number = some one → Owns uri history one) :
    (without number passes).map (renumbered uri history) =
      without (number.map (ordinal uri history)) (passes.map (renumbered uri history)) := by
  rw [without, without, List.filter_map]
  congr 1
  refine List.filter_congr fun pass member => ?_
  cases number with
  | none => rfl
  | some one =>
    have same := ordinal_inj (owned pass member) (own one rfl)
    rw [Bool.eq_iff_iff]
    simp [renumbered, same]

/-- Leaving out a pass and keeping those of a document can be done in either order. -/
theorem filter_without (uri : String) (number : Option Nat) (passes : List Pass) :
    (without number passes).filter (fun pass => pass.uri = uri) =
      without number (passes.filter fun pass => pass.uri = uri) := by
  rw [without, without, List.filter_comm]

/-- A pass that begins to run stays a pass of its document. -/
theorem filter_begin (uri : String) (number : Nat) (passes : List Pass) :
    (begin number passes).filter (fun pass => pass.uri = uri) =
      begin number (passes.filter fun pass => pass.uri = uri) := by
  rw [begin, begin, List.filter_map]
  congr 1
  refine List.filter_congr fun pass _ => ?_
  by_cases same : pass.number = number <;> simp [same]

/-- A pass of another document begins to run. -/
theorem begin_of_ne {number : Nat} {passes : List Pass}
    (other : ∀ pass ∈ passes, pass.number ≠ number) : begin number passes = passes := by
  rw [begin, List.map_congr_left fun pass member => if_neg (other pass member), List.map_id']

theorem map_renumbered_begin {uri : String} {history : List (Event δ)} {number : Nat}
    {passes : List Pass} (owned : ∀ pass ∈ passes, Owns uri history pass.number)
    (owns : Owns uri history number) :
    (begin number passes).map (renumbered uri history) =
      begin (ordinal uri history number) (passes.map (renumbered uri history)) := by
  rw [begin, begin, List.map_map, List.map_map]
  refine List.map_congr_left fun pass member => ?_
  have same := ordinal_inj (owned pass member) owns
  by_cases equal : pass.number = number <;> simp [renumbered, equal, same]

theorem next_expire (state : Schedule) (number : Nat) :
    state.next (.expire number : Event δ) =
      ((state.find? number .waiting).map state.start).getD state := by
  cases found : state.find? number .waiting <;> simp [next, step, expire?, found]

theorem next_complete (state : Schedule) (number : Nat) (outcome : CheckOutcome δ) :
    state.next (.complete number outcome) =
      ((state.find? number .running).map fun _ => state.ended number).getD state := by
  cases found : state.find? number .running <;> simp [next, step, complete, ended, found]

namespace Mirrors

variable {uri : String} {history : List (Event δ)}

/-- A pass of the document is found alone where it is found among others. -/
protected theorem find? (mirrors : Mirrors uri history) {number : Nat}
    (owns : Owns uri history number) (phase : Pass.Phase) :
    (empty.after (alone uri history)).find? (ordinal uri history number) phase =
      ((empty.after history).find? number phase).map (renumbered uri history) := by
  cases found : (empty.after history).find? number phase with
  | some pass =>
    rcases find?_eq_some found with ⟨member, rfl, rfl⟩
    have own := mem_passesOf.mpr ⟨member, (owns_of_mem member).uri_eq owns⟩
    have there : renumbered uri history pass ∈ (empty.after (alone uri history)).passes :=
      mirrors.passes ▸ List.mem_map_of_mem own
    exact (sound_after _).find?_of_mem there
  | none =>
    refine Option.eq_none_iff_forall_ne_some.mpr fun other found' => ?_
    rcases find?_eq_some found' with ⟨there, number', phase'⟩
    rw [mirrors.passes] at there
    rcases List.mem_map.mp there with ⟨pass, own, rfl⟩
    rcases mem_passesOf.mp own with ⟨member, rfl⟩
    have same := (ordinal_inj (owns_of_mem member) owns).mp number'
    have again := (sound_after history).find?_of_mem member
    rw [same, show pass.phase = phase from phase', found] at again
    cases again

/-- What concerns neither the passes nor the tables of a document changes nothing alone. -/
theorem of_unchanged (mirrors : Mirrors uri history) {event : Event δ}
    (left : alone? uri history event = none)
    (passes : passesOf uri ((empty.after history).next event) = passesOf uri (empty.after history))
    (latest : ((empty.after history).next event).latest.find? uri =
      (empty.after history).latest.find? uri)
    (pending : ((empty.after history).next event).pending.find? uri =
      (empty.after history).pending.find? uri) : Mirrors uri (history ++ [event]) := by
  have same : alone uri (history ++ [event]) = alone uri history := by
    rw [alone_concat, left, Option.toList_none, List.append_nil]
  constructor
  · rw [same, after_concat, passes, mirrors.passes]
    refine List.map_congr_left fun pass own => ?_
    rw [renumbered, renumbered, ordinal_concat event (owns_of_mem_passesOf own).le]
  · rw [same, after_concat, latest, mirrors.latest]
    refine Option.map_congr fun number found => ?_
    rw [ordinal_concat event (owns_of_latest found).le]
  · rw [same, after_concat, pending, mirrors.pending]
    refine Option.map_congr fun number found => ?_
    rw [ordinal_concat event (owns_of_pending found).le]

/-- What concerns the document is done to its passes and its tables alone as it is among others. -/
theorem of_changed {event own : Event δ}
    (left : alone? uri history event = some own) (quiet : event.asked? = none)
    (passes : ((empty.after (alone uri history)).next own).passes =
      (passesOf uri ((empty.after history).next event)).map (renumbered uri history))
    (latest : ((empty.after (alone uri history)).next own).latest.find? uri =
      (((empty.after history).next event).latest.find? uri).map (ordinal uri history))
    (pending : ((empty.after (alone uri history)).next own).pending.find? uri =
      (((empty.after history).next event).pending.find? uri).map (ordinal uri history)) :
    Mirrors uri (history ++ [event]) := by
  have longer : alone uri (history ++ [event]) = alone uri history ++ [own] := by
    rw [alone_concat, left, Option.toList_some]
  have ordinals : ordinal uri (history ++ [event]) = ordinal uri history := by
    funext number
    rw [ordinal, ordinal, asked_concat, quiet, Option.toList_none, List.append_nil]
  have numbers : renumbered uri (history ++ [event]) = renumbered uri history := by
    funext pass
    rw [renumbered, renumbered, ordinals]
  constructor
  · rw [longer, after_concat, after_concat, numbers, passes]
  · rw [longer, after_concat, after_concat, ordinals, latest]
  · rw [longer, after_concat, after_concat, ordinals, pending]

/-- What is taken away from the passes of the document is taken away alone. -/
theorem passes_without (mirrors : Mirrors uri history) {number : Option Nat}
    (own : ∀ one, number = some one → Owns uri history one) :
    without (number.map (ordinal uri history)) (empty.after (alone uri history)).passes =
      (without number (passesOf uri (empty.after history))).map (renumbered uri history) := by
  rw [mirrors.passes, map_renumbered_without (fun _ => owns_of_mem_passesOf) own]

theorem passes_without_pending (mirrors : Mirrors uri history) :
    without ((empty.after (alone uri history)).pending.find? uri)
        (empty.after (alone uri history)).passes =
      (without ((empty.after history).pending.find? uri)
        (passesOf uri (empty.after history))).map (renumbered uri history) := by
  rw [mirrors.pending, mirrors.passes_without fun one => owns_of_pending]

protected theorem schedule (mirrors : Mirrors uri history) :
    Mirrors uri (history ++ [.schedule uri]) := by
  have longer : alone uri (history ++ [.schedule uri]) = alone uri history ++ [.schedule uri] := by
    simp [alone_concat, alone?]
  have newest : ordinal uri (history ++ [.schedule uri]) ((empty.after history).issued + 1) =
      (empty.after (alone uri history)).issued + 1 := by
    rw [issued_eq_length_asked, ordinal_newest, issued_alone]
  constructor
  · rw [longer, after_concat, after_concat]
    show without _ _ ++ _ = ((without _ _ ++ _).filter _).map _
    rw [List.filter_append, List.map_append, filter_without, mirrors.passes_without_pending]
    congr 1
    · refine List.map_congr_left fun pass own => ?_
      have owns := owns_of_mem_passesOf (mem_without.mp own).1
      rw [renumbered, renumbered, ordinal_concat _ owns.le]
    · simp [renumbered, newest]
  · rw [longer, after_concat, after_concat]
    show (Table.insert _ _ _).find? uri = ((Table.insert _ _ _).find? uri).map _
    rw [Table.find?_insert_self, Table.find?_insert_self, Option.map_some, newest]
  · rw [longer, after_concat, after_concat]
    show (Table.insert _ _ _).find? uri = ((Table.insert _ _ _).find? uri).map _
    rw [Table.find?_insert_self, Table.find?_insert_self, Option.map_some, newest]

protected theorem cancel (mirrors : Mirrors uri history) :
    Mirrors uri (history ++ [.cancel uri]) := by
  have left : alone? uri history (.cancel uri) = some (.cancel uri) := if_pos rfl
  refine of_changed left rfl ?_ ?_ ?_
  · show without _ _ = ((without _ _).filter _).map _
    rw [filter_without, mirrors.passes_without_pending]
    rfl
  · show (Table.erase _ _).find? uri = ((Table.erase _ _).find? uri).map _
    simp
  · show (Table.erase _ _).find? uri = ((Table.erase _ _).find? uri).map _
    simp

protected theorem shutDown (uri : String) (history : List (Event δ)) :
    Mirrors uri (history ++ [.shutDown]) :=
  of_changed (show alone? uri history .shutDown = some .shutDown from rfl) rfl rfl rfl rfl

/-- A pass that is not one of the document's is none of its passes. -/
theorem number_ne {number : Nat} (foreign : ¬Owns uri history number) :
    ∀ pass ∈ passesOf uri (empty.after history), pass.number ≠ number := by
  rintro pass own rfl
  exact foreign (owns_of_mem_passesOf own)

theorem without_foreign {number : Option Nat}
    (foreign : ∀ one, number = some one → ¬Owns uri history one) :
    without number (passesOf uri (empty.after history)) = passesOf uri (empty.after history) := by
  refine List.filter_eq_self.mpr fun pass own => ?_
  rw [bne_iff_ne]
  rintro rfl
  exact number_ne (foreign pass.number rfl) pass own rfl

/-- A request for another document. -/
theorem scheduleOther (mirrors : Mirrors uri history) {other : String} (different : other ≠ uri) :
    Mirrors uri (history ++ [.schedule other]) := by
  have foreign : ∀ one, (empty.after history).pending.find? other = some one →
      ¬Owns uri history one := fun one found owns => different ((owns_of_pending found).uri_eq owns)
  refine mirrors.of_unchanged (by simp [alone?, different]) ?_ ?_ ?_
  · show ((without _ _ ++ _).filter _) = _
    rw [List.filter_append, filter_without, List.filter_cons_of_neg (by simp [different]),
      List.filter_nil, List.append_nil]
    exact without_foreign foreign
  · exact Table.find?_insert_of_ne _ (Ne.symm different) _
  · exact Table.find?_insert_of_ne _ (Ne.symm different) _

/-- The end of another document. -/
theorem cancelOther (mirrors : Mirrors uri history) {other : String} (different : other ≠ uri) :
    Mirrors uri (history ++ [.cancel other]) := by
  have foreign : ∀ one, (empty.after history).pending.find? other = some one →
      ¬Owns uri history one := fun one found owns => different ((owns_of_pending found).uri_eq owns)
  refine mirrors.of_unchanged (by simp [alone?, different]) ?_ ?_ ?_
  · show (without _ _).filter _ = _
    rw [filter_without]
    exact without_foreign foreign
  · exact Table.find?_erase_of_ne _ (Ne.symm different)
  · exact Table.find?_erase_of_ne _ (Ne.symm different)

protected theorem expire (mirrors : Mirrors uri history) (number : Nat) :
    Mirrors uri (history ++ [.expire number]) := by
  by_cases owns : Owns uri history number
  · have left : alone? uri history (.expire number) =
        some (.expire (ordinal uri history number)) := if_pos owns
    have found := mirrors.find? owns .waiting
    cases there : (empty.after history).find? number .waiting with
    | none =>
      rw [there, Option.map_none] at found
      refine of_changed left rfl ?_ ?_ ?_ <;>
        rw [next_expire, next_expire, there, found, Option.map_none, Option.map_none,
          Option.getD_none, Option.getD_none]
      · exact mirrors.passes
      · exact mirrors.latest
      · exact mirrors.pending
    | some pass =>
      rcases find?_eq_some there with ⟨member, rfl, waiting⟩
      have own : pass.uri = uri := (owns_of_mem member).uri_eq owns
      have pending := own ▸ (sound_after history).pending_of_waiting member waiting
      rw [there, Option.map_some] at found
      refine of_changed left rfl ?_ ?_ ?_ <;>
        rw [next_expire, next_expire, there, found, Option.map_some, Option.map_some,
          Option.getD_some, Option.getD_some]
      · show begin _ _ = ((begin _ _).filter _).map _
        rw [filter_begin, mirrors.passes]
        exact (map_renumbered_begin (fun _ => owns_of_mem_passesOf) owns).symm
      · exact mirrors.latest
      · -- The pass that begins to run was the waiting one of its document, alone and among others.
        have alone := mirrors.pending
        rw [pending, Option.map_some] at alone
        simp [start, renumbered, own, pending, alone]
  · have left : alone? uri history (.expire number) = none := if_neg owns
    cases there : (empty.after history).find? number .waiting with
    | none =>
      refine mirrors.of_unchanged left ?_ ?_ ?_ <;>
        rw [next_expire, there, Option.map_none, Option.getD_none]
    | some pass =>
      rcases find?_eq_some there with ⟨member, rfl, waiting⟩
      have other : uri ≠ pass.uri := fun same => owns (same ▸ owns_of_mem member)
      refine mirrors.of_unchanged left ?_ ?_ ?_ <;>
        rw [next_expire, there, Option.map_some, Option.getD_some]
      · show (begin _ _).filter _ = _
        rw [filter_begin]
        exact begin_of_ne (number_ne owns)
      · rfl
      · show (if _ then _ else _ : Table String Nat).find? uri = _
        split
        · exact Table.find?_erase_of_ne _ other
        · rfl

protected theorem complete (mirrors : Mirrors uri history) (number : Nat)
    (outcome : CheckOutcome δ) : Mirrors uri (history ++ [.complete number outcome]) := by
  by_cases owns : Owns uri history number
  · have left : alone? uri history (.complete number outcome) =
        some (.complete (ordinal uri history number) outcome) := if_pos owns
    have found := mirrors.find? owns .running
    cases there : (empty.after history).find? number .running with
    | none =>
      rw [there, Option.map_none] at found
      refine of_changed left rfl ?_ ?_ ?_ <;>
        rw [next_complete, next_complete, there, found, Option.map_none, Option.map_none,
          Option.getD_none, Option.getD_none]
      · exact mirrors.passes
      · exact mirrors.latest
      · exact mirrors.pending
    | some pass =>
      rw [there, Option.map_some] at found
      refine of_changed left rfl ?_ ?_ ?_ <;>
        rw [next_complete, next_complete, there, found, Option.map_some, Option.map_some,
          Option.getD_some, Option.getD_some]
      · show without _ _ = ((without _ _).filter _).map _
        rw [filter_without]
        exact mirrors.passes_without fun one same => Option.some.inj same ▸ owns
      · exact mirrors.latest
      · exact mirrors.pending
  · have left : alone? uri history (.complete number outcome) = none := if_neg owns
    cases there : (empty.after history).find? number .running with
    | none =>
      refine mirrors.of_unchanged left ?_ ?_ ?_ <;>
        rw [next_complete, there, Option.map_none, Option.getD_none]
    | some pass =>
      refine mirrors.of_unchanged left ?_ ?_ ?_ <;>
        rw [next_complete, there, Option.map_some, Option.getD_some]
      · show (without _ _).filter _ = _
        rw [filter_without]
        exact without_foreign fun one same => Option.some.inj same ▸ owns
      · rfl
      · rfl

end Mirrors

/-- In every run, the schedule of a document alone holds what the schedule of all holds of it. -/
theorem mirrors_after (uri : String) (history : List (Event δ)) : Mirrors uri history := by
  induction history using List.reverseRecOn with
  | nil => exact ⟨rfl, rfl, rfl⟩
  | append_singleton history event mirrors =>
    cases event with
    | schedule other =>
      by_cases same : other = uri
      · exact same ▸ mirrors.schedule
      · exact mirrors.scheduleOther same
    | cancel other =>
      by_cases same : other = uri
      · exact same ▸ mirrors.cancel
      · exact mirrors.cancelOther same
    | expire number => exact mirrors.expire number
    | complete number outcome => exact mirrors.complete number outcome
    | shutDown => exact .shutDown uri history

/-! ## Two runs -/

theorem ordinal_le (uri : String) (history : List (Event δ)) (number : Nat) :
    ordinal uri history number ≤ (asked history).count uri :=
  (List.take_sublist _ _).count_le uri

theorem ordinal_alone_ordinal (uri : String) (history : List (Event δ)) (number : Nat) :
    ordinal uri (alone uri history) (ordinal uri history number) = ordinal uri history number :=
  ordinal_alone (ordinal_le uri history number)

theorem passesOf_alone (uri : String) (history : List (Event δ)) :
    passesOf uri (empty.after (alone uri history)) =
      (passesOf uri (empty.after history)).map (renumbered uri history) := by
  rw [← (mirrors_after uri history).passes]
  refine List.filter_eq_self.mpr fun pass member => ?_
  rw [(mirrors_after uri history).passes] at member
  rcases List.mem_map.mp member with ⟨own, present, rfl⟩
  exact decide_eq_true (mem_passesOf.mp present).2

/-- A pass of the document is there alone if it is there among others. -/
theorem renumbered_mem_alone {uri : String} {history : List (Event δ)} {pass : Pass}
    (owns : Owns uri history pass.number) (own : pass.uri = uri) :
    renumbered uri history pass ∈ (empty.after (alone uri history)).passes ↔
      pass ∈ (empty.after history).passes := by
  rw [(mirrors_after uri history).passes, List.mem_map]
  constructor
  · rintro ⟨other, present, same⟩
    rw [← (renumbered_inj (owns_of_mem_passesOf present) owns).mp same]
    exact (mem_passesOf.mp present).1
  · exact fun member => ⟨pass, mem_passesOf.mpr ⟨member, own⟩, rfl⟩

/-- The same, after one more event. -/
theorem renumbered_mem_next {uri : String} {history : List (Event δ)} (event : Event δ) {pass : Pass}
    (owns : Owns uri history pass.number) (own : pass.uri = uri) :
    renumbered uri history pass ∈ (empty.after (alone uri (history ++ [event]))).passes ↔
      pass ∈ ((empty.after history).next event).passes := by
  rw [← after_concat, ← renumbered_mem_alone ((owns_concat event owns.le).mpr owns) own, renumbered,
    renumbered, ordinal_concat event owns.le]

/-- A check that ends has the same consequence alone as among others. -/
theorem complete_alone {uri : String} {history : List (Event δ)} {number : Nat}
    (owns : Owns uri history number) (outcome : CheckOutcome δ) :
    ((empty.after (alone uri history)).complete (ordinal uri history number) outcome).1 =
      ((empty.after history).complete number outcome).1 := by
  have mirrors := mirrors_after uri history
  have found := mirrors.find? owns .running
  cases there : (empty.after history).find? number .running with
  | none =>
    rw [there, Option.map_none] at found
    simp only [complete, there, found]
  | some pass =>
    rcases find?_eq_some there with ⟨member, rfl, _⟩
    have own : pass.uri = uri := (owns_of_mem member).uri_eq owns
    rw [there, Option.map_some] at found
    simp only [complete, there, found]
    cases outcome with
    | failed | gone => rfl
    | found result =>
      have newest : (empty.after (alone uri history)).latest.find? uri =
          some (ordinal uri history pass.number) ↔
            (empty.after history).latest.find? uri = some pass.number := by
        rw [mirrors.latest, Option.map_eq_some_iff]
        constructor
        · rintro ⟨other, latest, same⟩
          rw [latest, (ordinal_inj (owns_of_latest latest) owns).mp same]
        · exact fun latest => ⟨_, latest, rfl⟩
      simp only [verdict?, renumbered, own, newest]

/-- Each pass of the document takes the same turn alone as among others. -/
theorem turn?_alone {uri : String} {history : List (Event δ)} {event own : Event δ}
    (left : alone? uri history event = some own) {pass : Pass}
    (member : pass ∈ passesOf uri (empty.after history)) :
    (empty.after (alone uri history)).turn? own (renumbered uri history pass) =
      (empty.after history).turn? event pass := by
  have owns := owns_of_mem_passesOf member
  have isOwn := (mem_passesOf.mp member).2
  have next : (empty.after (alone uri (history ++ [event]))) =
      (empty.after (alone uri history)).next own := by
    rw [alone_concat, left, Option.toList_some, after_concat]
  have stays := renumbered_mem_next event owns isOwn
  have runs : renumbered uri history { pass with phase := .running } ∈ _ ↔ _ :=
    renumbered_mem_next event owns isOwn
  rw [next] at stays runs
  have endings : ending ((empty.after (alone uri history)).step own).1 own =
      ending ((empty.after history).step event).1 event := by
    cases event with
    | schedule other | cancel other =>
      by_cases same : other = uri
      · rw [alone?, if_pos same] at left
        cases left
        rfl
      · rw [alone?, if_neg same] at left
        cases left
    | expire number =>
      by_cases ownsIt : Owns uri history number
      · rw [alone?, if_pos ownsIt] at left
        cases left
        rfl
      · rw [alone?, if_neg ownsIt] at left
        cases left
    | complete number outcome =>
      by_cases ownsIt : Owns uri history number
      · rw [alone?, if_pos ownsIt] at left
        cases left
        simp only [step, complete_alone ownsIt]
        rfl
      · rw [alone?, if_neg ownsIt] at left
        cases left
    | shutDown =>
      cases left
      rfl
  simp only [turn?, endings]
  refine if_congr stays rfl (if_congr runs rfl rfl)

/-- Nothing becomes of the passes of a document when something concerns another one. -/
theorem turn?_of_foreign {uri : String} {history : List (Event δ)} {event : Event δ}
    (left : alone? uri history event = none) {pass : Pass}
    (member : pass ∈ passesOf uri (empty.after history)) :
    (empty.after history).turn? event pass = none := by
  have owns := owns_of_mem_passesOf member
  have isOwn := (mem_passesOf.mp member).2
  have same : alone uri (history ++ [event]) = alone uri history := by
    rw [alone_concat, left, Option.toList_none, List.append_nil]
  have stays := renumbered_mem_next event owns isOwn
  rw [same, renumbered_mem_alone owns isOwn] at stays
  exact if_pos (stays.mp (mem_passesOf.mp member).1)

theorem standing_alone (uri : String) (history : List (Event δ)) :
    standing uri (alone uri history) = standing uri history := by
  rw [standing, standing, passesOf_alone, List.map_map]
  refine List.map_congr_left fun pass _ => ?_
  simp only [Function.comp_apply, renumbered, ordinal_alone_ordinal]

theorem turns_alone {uri : String} {history : List (Event δ)} {event own : Event δ}
    (left : alone? uri history event = some own) :
    turns uri (alone uri history) own = turns uri history event := by
  rw [turns, turns, passesOf_alone, List.filterMap_map]
  refine List.filterMap_congr fun pass member => ?_
  rw [Function.comp_apply, turn?_alone left member]
  simp only [renumbered, ordinal_alone_ordinal]

theorem turns_of_foreign {uri : String} {history : List (Event δ)} {event : Event δ}
    (left : alone? uri history event = none) : turns uri history event = [] := by
  refine List.filterMap_eq_nil_iff.mpr fun pass member => ?_
  rw [turn?_of_foreign left member, Option.map_none]

/-! ## Publications of one document -/

theorem publications_concat (state : Schedule) (history : List (Event δ)) (event : Event δ) :
    publications state (history ++ [event]) =
      publications state history ++ ((state.after history).published? event).toList := by
  induction history generalizing state with
  | nil => simp [publications]
  | cons first later inductionHypothesis =>
    rw [List.cons_append, publications, publications, inductionHypothesis, List.append_assoc,
      after_cons]

theorem owns_of_published {history : List (Event δ)} {event : Event δ}
    {publication : Publication δ}
    (published : (empty.after history).published? event = some publication) :
    Owns publication.uri history publication.number :=
  owns_of_latest ((published?_eq_some_iff _ event publication).mp published).2.1

/-- Every publication comes from a request for its document. -/
theorem owns_of_mem_publications {history : List (Event δ)} {publication : Publication δ}
    (member : publication ∈ publications empty history) :
    Owns publication.uri history publication.number := by
  induction history using List.reverseRecOn with
  | nil => cases member
  | append_singleton history event inductionHypothesis =>
    have owns : Owns publication.uri history publication.number := by
      rw [publications_concat] at member
      rcases List.mem_append.mp member with old | new
      · exact inductionHypothesis old
      · exact owns_of_published (Option.mem_toList.mp new)
    exact (owns_concat event owns.le).mpr owns

/-- One more event adds what is published because of it. -/
theorem publishedFor_concat (uri : String) (history : List (Event δ)) (event : Event δ) :
    publishedFor uri (history ++ [event]) = publishedFor uri history ++
      (((empty.after history).published? event).bind (publishedAs? uri history)).toList := by
  have older {publication : Publication δ} (owns : Owns publication.uri history publication.number) :
      publishedAs? uri (history ++ [event]) publication =
        publishedAs? uri history publication := by
    rw [publishedAs?, publishedAs?, ordinal_concat event owns.le]
  rw [publishedFor, publishedFor, publications_concat, List.filterMap_append]
  congr 1
  · exact List.filterMap_congr fun publication member => older (owns_of_mem_publications member)
  · cases published : (empty.after history).published? event with
    | none => rfl
    | some publication =>
      rw [Option.toList_some, List.filterMap_cons, older (owns_of_published published),
        Option.bind_some]
      cases publishedAs? uri history publication <;> rfl

/-- What is published for the document because of an event is published alone. -/
theorem published_alone (uri : String) (history : List (Event δ)) (event : Event δ) :
    ((alone? uri history event).bind fun own =>
        ((empty.after (alone uri history)).published? own).bind
          (publishedAs? uri (alone uri history))) =
      ((empty.after history).published? event).bind (publishedAs? uri history) := by
  cases event with
  | schedule other | cancel other => by_cases same : other = uri <;> simp [alone?, same, published?]
  | expire number => by_cases owns : Owns uri history number <;> simp [alone?, owns, published?]
  | shutDown => rfl
  | complete number outcome =>
    by_cases owns : Owns uri history number
    · rw [alone?, if_pos owns, Option.bind_some]
      simp only [published?, complete_alone owns]
      cases (empty.after history).complete number outcome |>.1 with
      | none => rfl
      | some verdict =>
        cases verdict with
        | report notice => rfl
        | publish other result => simp only [Option.bind_some, publishedAs?, ordinal_alone_ordinal]
    · rw [alone?, if_neg owns, Option.bind_none]
      cases published : (empty.after history).published? (.complete number outcome) with
      | none => rfl
      | some publication =>
        -- A pass that the document does not own publishes for another one.
        have ending := ((published?_eq_some_iff _ _ _).mp published).1
        obtain rfl : number = publication.number := by
          injection ending
        have other : publication.uri ≠ uri := fun same => owns (same ▸ owns_of_published published)
        rw [Option.bind_some, publishedAs?, if_neg other]

theorem publishedFor_alone (uri : String) (history : List (Event δ)) :
    publishedFor uri (alone uri history) = publishedFor uri history := by
  induction history using List.reverseRecOn with
  | nil => rfl
  | append_singleton history event inductionHypothesis =>
    rw [publishedFor_concat, ← inductionHypothesis, ← published_alone, alone_concat]
    cases alone? uri history event with
    | none => simp
    | some own => rw [Option.toList_some, publishedFor_concat, Option.bind_some]

/-! ## Documents are checked independently -/

/-- Take any run, any document and any event behind the run.  If the event concerns other documents
only, nothing becomes of the passes of the document.  Otherwise the same becomes of them as when
everything that concerns other documents is left out: the same of them start, and the same end in
the same ways.  Before the event the same passes are waiting and running in both runs, and the same
results have been published for the same requests in the same order. -/
theorem documents_are_checked_independently (uri : String) (history : List (Event δ))
    (event : Event δ) :
    turns uri history event = ((alone? uri history event).map (turns uri (alone uri history))).getD []
    ∧ standing uri history = standing uri (alone uri history)
    ∧ publishedFor uri history = publishedFor uri (alone uri history) := by
  refine ⟨?_, (standing_alone uri history).symm, (publishedFor_alone uri history).symm⟩
  cases left : alone? uri history event with
  | none => exact turns_of_foreign left
  | some own => exact (turns_alone left).symm

end Schedule

end HomeConfig
