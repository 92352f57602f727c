import HomeConfig.Proofs.Completion.Offer
import HomeConfig.Proofs.Completion.Typed

/-!
# Typing on

An editor asks for completions once, and while the user types on it narrows the list down by itself.
So everything that would be offered later must be in the list from the start.

Two things could break this.  The context could become another one, in which other things are
offered; but it only grows (`Context.Grows`).  And an entry could match more that is typed, but not
less; but what is found in a name stays found when its end is cut off (`Candidate.Narrows`).
-/

namespace HomeConfig

/-! ## What matches -/

namespace Candidate

variable {α : Type} {long short needle more : Text}

/-- What matches the first of two texts matches the second one too. -/
def Narrows (long short : Text) : Prop :=
  ∀ names, isMatch long names = true → isMatch short names = true

theorem narrows_append (needle more : Text) : Narrows (needle ++ more) needle := by
  intro names found
  simp only [isMatch, Bool.or_eq_true, List.isEmpty_iff, List.any_eq_true] at found ⊢
  rcases found with empty | ⟨name, member, contained⟩
  · exact Or.inl (List.append_eq_nil_iff.mp empty).1
  · exact Or.inr ⟨name, member, Text.contains_of_append contained⟩

theorem narrows_nil (long : Text) : Narrows long [] :=
  fun _ _ => rfl

theorem narrows_lower_append (basic : ∀ c ∈ needle, c.toNat < 0x80)
    (token : ∀ c ∈ more, Text.isTokenChar c = true) :
    Narrows (Text.lower (needle ++ more)) (Text.lower needle) := by
  have goesOn : ∀ c ∈ more, c.toNat < 0x80 :=
    fun c member => Text.basic_of_isTokenChar (token c member)
  rw [Text.lower_append_of_basic basic goesOn]
  exact narrows_append _ _

/-- Entries are offered under their own labels, if they have one, where some name of theirs matches
what was typed. -/
def Labels (needle : Text) (names : α → List String) (own : α → Option String)
    (candidate : α → Option Item) : Prop :=
  ∀ entry, (candidate entry).map Item.label =
    if isMatch needle (names entry) = true then own entry else none

theorem Labels.subset {names : α → List String} {own : α → Option String}
    {longer shorter : α → Option Item} (narrows : Narrows long short)
    (labels : Labels long names own longer) (others : Labels short names own shorter)
    (entries : List α) :
    (entries.filterMap longer).map Item.label ⊆ (entries.filterMap shorter).map Item.label := by
  intro label member
  rw [List.map_filterMap] at member ⊢
  rcases List.mem_filterMap.mp member with ⟨entry, listed, offered⟩
  refine List.mem_filterMap.mpr ⟨entry, listed, ?_⟩
  rw [labels entry] at offered
  rw [others entry]
  split at offered
  next found => rw [if_pos (narrows _ found), offered]
  next => cases offered

theorem labels_entity (needle : Text) (range : Range) :
    Labels needle (fun state => [state.id, state.friendlyName]) (fun state => some state.id)
      (entity needle range) := by
  intro state
  unfold entity
  split <;> rfl

theorem labels_argument (typed : Typed) (range : Range) :
    Labels (Text.lower typed.name) (fun state => [state.id, state.friendlyName])
      (fun state => some state.id) (argument typed range) := by
  intro state
  rw [← labels_entity _ range state, argument, Option.map_map]
  rfl

theorem labels_service (needle : Text) (range : Range) :
    Labels needle (fun service => [service.fullName]) (fun service => some service.fullName)
      (service needle range) := by
  intro listed
  unfold service
  split <;> rfl

theorem labels_place (kind : Item.Kind) (describe : String → String) (needle : Text)
    (range : Range) :
    Labels needle (fun entry => [entry.id, entry.name])
      (fun entry => if entry.id = "" then none else some entry.id)
      (place kind describe needle range) := by
  intro entry
  unfold place
  by_cases nameless : entry.id = ""
  · simp [nameless]
  · by_cases found : isMatch needle [entry.id, entry.name] = true
    · simp [nameless, found]
    · simp [found]

theorem labels_device (needle : Text) (range : Range) :
    Labels needle (fun entry => [entry.id, entry.name])
      (fun entry => if entry.id = "" then none else some entry.id) (device needle range) :=
  fun entry => labels_place .module (fun _ => describeDevice entry) needle range entry.toPlace

end Candidate

/-! ## What is offered -/

/-- What has been typed of a name, where it decides what is offered. -/
def Context.typed (context : Context) : Text :=
  if context.inTemplate then ((Typed.argument? context.lineBefore).map Typed.name).getD []
  else if context.inValue then Typed.value context.lineBefore
  else []

namespace Offer

variable {more : Text} {context longer : Context}

/-- The labels of what is offered. -/
def labels (answers : Answers) (offer : Offer) : List String :=
  (offer.given answers).map Item.label

theorem labels_entries_subset {registry : Registry} {long short : Text}
    {names : registry.Item → List String} {own : registry.Item → Option String}
    {later sooner : registry.Item → Option Item} (narrows : Candidate.Narrows long short)
    (labels : Candidate.Labels long names own later)
    (others : Candidate.Labels short names own sooner) (answers : Answers) :
    (entries registry later).labels answers ⊆ (entries registry sooner).labels answers := by
  unfold Offer.labels
  rw [given_entries, given_entries]
  exact labels.subset narrows others _

theorem labels_template_subset (token : ∀ c ∈ more, Text.isTokenChar c = true) (line : Text)
    (basic : ∀ c ∈ ((Typed.argument? line).map Typed.name).getD [], c.toNat < 0x80)
    (answers : Answers) (later sooner : Position) :
    (template (line ++ more) later).labels answers ⊆ (template line sooner).labels answers := by
  unfold labels
  rw [given_template, given_template, Typed.argument?_append token]
  cases argument : Typed.argument? line with
  | none => exact List.Subset.refl _
  | some typed =>
    rw [argument] at basic
    cases answers.states with
    | error cause => exact List.Subset.refl _
    | ok states =>
      have narrows : Candidate.Narrows (Text.lower (typed.name ++ more)) (Text.lower typed.name) :=
        Candidate.narrows_lower_append basic token
      have found := Candidate.Labels.subset narrows
        (Candidate.labels_argument (typed.extend more) (Typed.range later (typed.name ++ more)))
        (Candidate.labels_argument typed (Typed.range sooner typed.name)) states
      simp only [Option.map_some, List.map_append]
      exact List.append_subset.mpr ⟨List.Subset.trans found (List.subset_append_left _ _),
        List.subset_append_right _ _⟩

theorem narrows_value (token : ∀ c ∈ more, Text.isTokenChar c = true) (line : Text)
    (basic : ∀ c ∈ Typed.value line, c.toNat < 0x80) :
    Candidate.Narrows (Text.lower (Typed.value (line ++ more)))
      (Text.lower (Typed.value line)) := by
  rcases Typed.value_append token line with nothing | grown
  · rw [nothing]
    exact Candidate.narrows_nil _
  · rw [grown]
    exact Candidate.narrows_lower_append basic token

theorem labels_value_subset (token : ∀ c ∈ more, Text.isTokenChar c = true)
    (grows : Context.Grows more context longer)
    (basic : ∀ c ∈ Typed.value context.lineBefore, c.toNat < 0x80)
    (answers : Answers) (later sooner : Position) :
    (value longer later).labels answers ⊆ (value context sooner).labels answers := by
  have narrows := narrows_value token context.lineBefore basic
  have inTrigger : longer.inTrigger = context.inTrigger :=
    Context.inTrigger_eq_of_parentKeys grows.parentKeys
  unfold value
  rw [grows.key, grows.lineBefore, inTrigger]
  -- The key is the same, and with it the kind of the value; what is typed narrows each list.
  dsimp only
  split
  · exact labels_entries_subset narrows (Candidate.labels_entity _ _)
      (Candidate.labels_entity _ _) answers
  split
  · exact labels_entries_subset narrows (Candidate.labels_service _ _)
      (Candidate.labels_service _ _) answers
  split
  · exact labels_entries_subset narrows (Candidate.labels_place _ _ _ _)
      (Candidate.labels_place _ _ _ _) answers
  split
  · exact labels_entries_subset narrows (Candidate.labels_device _ _)
      (Candidate.labels_device _ _) answers
  split
  · exact labels_entries_subset narrows (Candidate.labels_place _ _ _ _)
      (Candidate.labels_place _ _ _ _) answers
  split
  · exact labels_entries_subset narrows (Candidate.labels_place _ _ _ _)
      (Candidate.labels_place _ _ _ _) answers
  · exact List.Subset.refl _

/-- Which keys may stand somewhere is told by the keys above. -/
theorem keys_eq_of_parentKeys (same : longer.parentKeys = context.parentKeys) :
    keys longer = keys context := by
  unfold keys
  rw [same, Context.inTrigger_eq_of_parentKeys same, Context.inAction_eq_of_parentKeys same]

theorem labels_ofContext_subset (token : ∀ c ∈ more, Text.isTokenChar c = true)
    (grows : Context.Grows more context longer) (basic : ∀ c ∈ context.typed, c.toNat < 0x80)
    (answers : Answers) (later sooner : Position) :
    (ofContext longer later).labels answers ⊆ (ofContext context sooner).labels answers := by
  unfold Context.typed at basic
  unfold ofContext
  rw [grows.inTemplate, grows.inValue]
  split
  next inside =>
    rw [if_pos inside] at basic
    rw [grows.lineBefore]
    exact labels_template_subset token _ basic answers later sooner
  next outside =>
    rw [if_neg outside] at basic
    split
    next behind =>
      rw [if_pos behind] at basic
      exact labels_value_subset token grows basic answers later sooner
    next =>
      rw [keys_eq_of_parentKeys grows.parentKeys]
      exact List.Subset.refl _

end Offer

/-- What is offered after more of a name has been typed was offered before, under the same label.
So a list of completions holds for as long as the user types on, if what was typed at first is
basic text. -/
theorem completions_hold_while_typing_on (before more rest last : Text)
    (token : ∀ c ∈ more, Text.isTokenChar c = true) (answers : Answers) :
    let cursor := Position.ofOffset (before ++ rest) before.length
    let later := Position.ofOffset (before ++ more ++ last) (before ++ more).length
    (∀ c ∈ (Context.ofCursor (before ++ rest) cursor.line cursor.character).typed,
      c.toNat < 0x80) →
    ((complete (before ++ more ++ last) later).given answers).map Item.label ⊆
      ((complete (before ++ rest) cursor).given answers).map Item.label := by
  intro cursor later basic
  have sooner : cursor = Position.behind before := Position.ofOffset_length before rest
  have after : later = Position.behind (before ++ more) :=
    Position.ofOffset_length (before ++ more) last
  rw [Offer.given_complete, Offer.given_complete]
  rw [sooner] at basic ⊢
  rw [after]
  exact Offer.labels_ofContext_subset token (Context.grows_between before rest last token) basic
    answers _ _

/-- A light in the attic, and nothing else. -/
def oneLight : Answers where
  list
    | .states => .ok ⟨[⟨"light.attic", "on", [], none, none⟩], 1, 0⟩
    | _ => .ok ⟨[], 1, 1⟩
  read _ := .ok .null

theorem the_light_is_offered_from_the_start :
    let sooner := ((complete "entity_id: li\n".toList ⟨0, 13⟩).given oneLight).map Item.label
    let later := ((complete "entity_id: light\n".toList ⟨0, 16⟩).given oneLight).map Item.label
    later = ["light.attic"] ∧ later ⊆ sooner := by
  have basic : ∀ c ∈ (Context.ofCursor "entity_id: li\n".toList 0 13).typed, c.toNat < 0x80 := by
    have typed : (Context.ofCursor "entity_id: li\n".toList 0 13).typed = ['l', 'i'] := by
      decide +kernel
    rw [typed]
    simp
  constructor
  · decide +kernel
  · exact completions_hold_while_typing_on "entity_id: li".toList "ght".toList "\n".toList
      "\n".toList (List.all_eq_true.mp rfl) oneLight basic

end HomeConfig
