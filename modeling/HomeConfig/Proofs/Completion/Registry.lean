import HomeConfig.Proofs.Completion.Offer
import HomeConfig.Proofs.Text.Part
import Mathlib.Data.List.Forall2

/-!
# Entries of a registry as values

Some keys take an entry of a registry as their value: an entity, a service, an area, a device, a
floor or a label.  Behind such a key the entries of its registry are offered, each under a label of
its own (`Registry.label`), if what has been typed is a part of one of the names that the entry has
(`Registry.IsCompletion`).

The items of the six registries differ in what they show beside the label.  What a completion is
chosen by and what it does is the same for all of them: the label, what is inserted and where, and
the key that the item is sorted by (`Item.Completes`).  So the items of a registry are one for each
entry that is a completion, in the order of the entries (`Offer.forall₂_given`).
-/

namespace HomeConfig

/-- What has been typed is a part of one of some names, when both are written in the same case. -/
def FoundIn (fold : Text → Text) (typed : Text) (names : List String) : Prop :=
  ∃ name ∈ names, fold typed <:+: fold name.toList

instance (fold : Text → Text) (typed : Text) (names : List String) :
    Decidable (FoundIn fold typed names) :=
  inferInstanceAs (Decidable (∃ name ∈ names, _))

namespace Registry

/-- The keys that take an entry of a registry. -/
def keys : Registry → List String
  | states => Vocabulary.entityKeys
  | services => Vocabulary.serviceKeys
  | areas => Vocabulary.areaKeys
  | devices => Vocabulary.deviceKeys
  | floors => Vocabulary.floorKeys
  | labels => Vocabulary.labelKeys

/-- What an entry is offered as. -/
def label : (registry : Registry) → registry.Item → String
  | states => Entity.id
  | services => Service.fullName
  | areas => Place.id
  | devices => fun device => device.toPlace.id
  | floors => Place.id
  | labels => Place.id

/-- The names that an entry is looked for under. -/
def names : (registry : Registry) → registry.Item → List String
  | states => fun state => [state.id, state.friendlyName]
  | services => fun service => [service.fullName]
  | areas => fun area => [area.id, area.name]
  | devices => fun device => [device.toPlace.id, device.toPlace.name]
  | floors => fun floor => [floor.id, floor.name]
  | labels => fun label => [label.id, label.name]

/-- An entity and a service can always be offered, and any other entry if it has an identifier. -/
def CanBeOffered (registry : Registry) (entry : registry.Item) : Prop :=
  registry = states ∨ registry = services ∨ registry.label entry ≠ ""

instance (registry : Registry) (entry : registry.Item) : Decidable (registry.CanBeOffered entry) :=
  inferInstanceAs (Decidable (_ ∨ _ ∨ _))

/-- An entry completes what has been typed. -/
def IsCompletion (fold : Text → Text) (typed : Text) (registry : Registry)
    (entry : registry.Item) : Prop :=
  registry.CanBeOffered entry ∧ FoundIn fold typed (registry.names entry)

instance (fold : Text → Text) (typed : Text) (registry : Registry) (entry : registry.Item) :
    Decidable (registry.IsCompletion fold typed entry) :=
  inferInstanceAs (Decidable (_ ∧ _))

end Registry

/-! ## Items -/

/-- An item replaces what has been typed by a name. -/
structure Item.Completes (needle : Text) (range : Range) (name : String) (item : Item) : Prop where
  label : item.label = name
  edit : item.edit = some ⟨range, name⟩
  sortText : item.sortText = some (Candidate.rank needle name)

namespace Candidate

variable {needle : Text} {range : Range} {name : String} {condition other : Prop}

/-- There is an item with a name just if a condition holds. -/
structure Decides (condition : Prop) (needle : Text) (range : Range) (name : String)
    (offered : Option Item) : Prop where
  some_ : condition → ∃ item, offered = some item ∧ item.Completes needle range name
  none_ : ¬ condition → offered = none

theorem Decides.of_some {offered : Option Item} {item : Item}
    (decides : Decides condition needle range name offered) (isItem : offered = some item) :
    condition ∧ item.Completes needle range name := by
  by_cases holds : condition
  · rcases decides.some_ holds with ⟨other, isOther, completes⟩
    rw [isItem] at isOther
    cases isOther
    exact ⟨holds, completes⟩
  · rw [decides.none_ holds] at isItem
    cases isItem

theorem decides_ite {test : Prop} [Decidable test] {item : Item}
    (completes : item.Completes needle range name) (same : test ↔ condition) :
    Decides condition needle range name (if test then some item else none) where
  some_ := fun holds => ⟨item, if_pos (same.mpr holds), completes⟩
  none_ := fun fails => if_neg (mt same.mp fails)

theorem Decides.congr {offered : Option Item} (decides : Decides condition needle range name offered)
    (same : condition ↔ other) : Decides other needle range name offered :=
  propext same ▸ decides

theorem isMatch_iff (typed : Text) {names : List String} (some_ : names ≠ []) :
    isMatch (Text.lower typed) names = true ↔ FoundIn Text.lower typed names := by
  rw [isMatch, Bool.or_eq_true, List.isEmpty_iff, List.any_eq_true]
  simp only [Text.contains_iff]
  constructor
  · rintro (nothing | found)
    · rcases List.exists_mem_of_ne_nil names some_ with ⟨name, member⟩
      exact ⟨name, member, nothing ▸ List.nil_infix⟩
    · exact found
  · exact Or.inr

theorem decides_entity (typed : Text) (range : Range) (state : Entity) :
    Decides (FoundIn Text.lower typed [state.id, state.friendlyName]) (Text.lower typed) range
      state.id (entity (Text.lower typed) range state) := by
  unfold entity
  refine decides_ite ⟨rfl, rfl, rfl⟩ ?_
  exact isMatch_iff typed (List.cons_ne_nil _ _)

theorem decides_service (typed : Text) (range : Range) (listed : Service) :
    Decides (FoundIn Text.lower typed [listed.fullName]) (Text.lower typed) range listed.fullName
      (service (Text.lower typed) range listed) := by
  unfold service
  refine decides_ite ⟨rfl, rfl, rfl⟩ ?_
  exact isMatch_iff typed (List.cons_ne_nil _ _)

theorem decides_place (kind : Item.Kind) (describe : String → String) (typed : Text)
    (range : Range) (entry : Place) :
    Decides (entry.id ≠ "" ∧ FoundIn Text.lower typed [entry.id, entry.name]) (Text.lower typed)
      range entry.id (place kind describe (Text.lower typed) range entry) := by
  unfold place
  refine decides_ite ⟨rfl, rfl, rfl⟩ ?_
  exact and_congr_right' (isMatch_iff typed (List.cons_ne_nil _ _))

/-- The item of an entry. -/
def ofEntry (needle : Text) (range : Range) :
    (registry : Registry) → registry.Item → Option Item
  | .states => entity needle range
  | .services => service needle range
  | .areas => place .folder ("Area: " ++ ·) needle range
  | .devices => device needle range
  | .floors => place .folder ("Floor: " ++ ·) needle range
  | .labels => place .constant ("Label: " ++ ·) needle range

/-- An entry has an item just if it is a completion. -/
theorem decides_ofEntry (typed : Text) (range : Range) (registry : Registry)
    (entry : registry.Item) :
    Decides (registry.IsCompletion Text.lower typed entry) (Text.lower typed) range
      (registry.label entry) (ofEntry (Text.lower typed) range registry entry) := by
  cases registry with
  | states =>
    apply (decides_entity typed range entry).congr
    exact (and_iff_right (Or.inl rfl)).symm
  | services =>
    apply (decides_service typed range entry).congr
    exact (and_iff_right (Or.inr (Or.inl rfl))).symm
  | areas | floors | labels =>
    apply (decides_place _ _ typed range entry).congr
    apply and_congr_left'
    simp [Registry.CanBeOffered, Registry.label]
  | devices =>
    apply (decides_place .module (fun _ => describeDevice entry) typed range entry.toPlace).congr
    apply and_congr_left'
    simp [Registry.CanBeOffered, Registry.label]

end Candidate

/-! ## Lists of items -/

/-- What is made of the entries of a list, of some just one thing and of the others nothing. -/
theorem forall₂_filter_filterMap {α β : Type} {made : α → β → Prop} {f : α → Option β}
    {p : α → Prop} [DecidablePred p] (some_ : ∀ a, p a → ∃ b, f a = some b ∧ made a b)
    (none_ : ∀ a, ¬ p a → f a = none) (list : List α) :
    List.Forall₂ made (list.filter fun a => decide (p a)) (list.filterMap f) := by
  induction list with
  | nil => exact .nil
  | cons a list inductionHypothesis =>
    by_cases holds : p a
    · rcases some_ a holds with ⟨b, isMade, related⟩
      rw [List.filter_cons_of_pos (by simpa using holds), List.filterMap_cons_some isMade]
      exact .cons related inductionHypothesis
    · rw [List.filter_cons_of_neg (by simpa using holds), List.filterMap_cons_none (none_ a holds)]
      exact inductionHypothesis

namespace Offer

variable {context : Context} {cursor : Position}

/-- Behind a key of a registry its entries are offered. -/
theorem value_of_key (registry : Registry)
    (isKey : registry.keys.contains (String.ofList (Text.lower (context.key.getD []))) = true) :
    value context cursor = entries registry
      (Candidate.ofEntry (Text.lower (Typed.value context.lineBefore))
        (Typed.range cursor (Typed.value context.lineBefore)) registry) := by
  unfold value
  dsimp only
  generalize String.ofList (Text.lower (context.key.getD [])) = key at isKey ⊢
  have isOne := List.contains_iff_mem.mp isKey
  cases registry with
  | states =>
    rcases (by simpa [Registry.keys, Vocabulary.entityKeys] using isOne :
      key = "entity_id" ∨ key = "entity" ∨ key = "entities") with rfl | rfl | rfl
    all_goals rfl
  | services | areas | devices | floors | labels =>
    rcases List.mem_cons.mp isOne with rfl | isSecond
    · rfl
    · rw [List.mem_singleton.mp isSecond]
      rfl

variable (answers : Answers) (registry : Registry)
  (isKey : registry.keys.contains (String.ofList (Text.lower (context.key.getD []))) = true)

include isKey

/-- The items of a registry are one for each entry that is a completion, in the order of the
entries. -/
theorem forall₂_given :
    let typed := Typed.value context.lineBefore
    List.Forall₂
      (fun entry => Item.Completes (Text.lower typed) (Typed.range cursor typed)
        (registry.label entry))
      ((answers.entries registry).filter fun entry => registry.IsCompletion Text.lower typed entry)
      ((value context cursor).given answers) := by
  intro typed
  rw [value_of_key registry isKey, given_entries]
  apply forall₂_filter_filterMap
  · intro entry
    exact (Candidate.decides_ofEntry typed (Typed.range cursor typed) registry entry).some_
  · intro entry
    exact (Candidate.decides_ofEntry typed (Typed.range cursor typed) registry entry).none_

/-- Every item of a registry is the completion by one of its entries. -/
theorem exists_completes_of_mem {item : Item}
    (offered : item ∈ (value context cursor).given answers) :
    ∃ entry ∈ answers.entries registry,
      item.Completes (Text.lower (Typed.value context.lineBefore))
        (Typed.range cursor (Typed.value context.lineBefore)) (registry.label entry) := by
  rw [value_of_key registry isKey] at offered
  rcases mem_given_entries.mp offered with ⟨entry, listed, made⟩
  exact ⟨entry, listed, ((Candidate.decides_ofEntry _ _ registry entry).of_some made).2⟩

end Offer

end HomeConfig
