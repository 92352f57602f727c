import HomeConfig.Proofs.Completion.Resolution
import HomeConfig.Proofs.Live.Visit

/-!
# Items are documented or left alone

Any item can be sent back for its documentation, with any payload, and much can go wrong on the way:
the payload may name nothing, the live state may not be had, the list may be old, fail to come in,
or lack the subject.  In every case there is an item in the end, and it is the old one but for its
documentation (`resolutions_are_atomic`).  It gets one exactly if its payload names a subject that
is found, and the failures on the way decide only where the subject is looked for.

Two replies are enough.  The first is to the question for the live state of an entity, and the list
of states is then asked for on the store of that moment.  A service is looked up in its list alone.
-/

namespace HomeConfig

namespace Item

/-- The subject that the payload of an item names. -/
def subject? (item : Item) : Option Subject :=
  item.data.bind Subject.ofData?

/-- An item with a documentation, or as it is if there is none. -/
def documentedBy (item : Item) : Option String → Item
  | some text => { item with documentation := some (.markdown text) }
  | none => item

/-- The documentation that is made for an item. -/
def documented? (item : Item) (answers : Answers) : Option String :=
  item.subject?.bind (·.documented? answers)

/-- What the questions about an item are answered, with the replies that come. -/
def answersIn (item : Item) (now : Moment) (store : Store) (first second : Visit) : Answers where
  read endpoint := store.ask endpoint first
  list registry :=
    match item.subject? with
    | some (.entity _) =>
      -- Without a connection there is no reply to wait for, and the list is asked for at once.
      if store.isConnected then first.store.answer first.now registry second
      else store.answer now registry first
    | _ => store.answer now registry first

end Item

/-! ## Subjects that are found -/

namespace Subject

variable {answers : Answers} {subject : Subject}

/-- A subject is found on its list, and an entity also if its live state can be had. -/
def IsFound (answers : Answers) (subject : Subject) : Prop :=
  (∃ id live, subject = entity id ∧ answers.read (.entity id) >>= readEntity = .ok (some live)) ∨
    subject.IsListed answers

theorem isSome_map_find? {α : Type} (name : α → String) (describe : α → String) (listed : List α)
    (wanted : String) :
    ((listed.find? fun entry => name entry = wanted).map describe).isSome ↔
      ∃ entry ∈ listed, name entry = wanted := by
  rw [Option.isSome_map, List.find?_isSome]
  exact exists_congr fun entry => and_congr_right fun _ => decide_eq_true_iff

theorem isSome_documented?_iff :
    (subject.documented? answers).isSome ↔ subject.IsFound answers := by
  cases subject with
  | entity id =>
    have listed : (((answers.entries .states).reverse.find? fun state => state.id = id).map
        Entity.documentation).isSome ↔ (entity id).IsListed answers :=
      (isSome_map_find? Entity.id _ _ id).trans
        (exists_congr fun state => and_congr_left fun _ => List.mem_reverse)
    have fromList (notLive : ∀ live, answers.read (.entity id) >>= readEntity ≠ .ok (some live)) :
        (entity id).IsFound answers ↔ (entity id).IsListed answers := by
      refine or_iff_right ?_
      rintro ⟨_, live, ⟨rfl⟩, isLive⟩
      exact notLive live isLive
    rw [documented?]
    cases outcome : answers.read (.entity id) >>= readEntity with
    | error cause => exact listed.trans (fromList (by simp [outcome])).symm
    | ok found =>
      cases found with
      | some live => exact iff_of_true rfl (Or.inl ⟨id, live, rfl, outcome⟩)
      | none => exact listed.trans (fromList (by simp [outcome])).symm
  | service fullName =>
    refine (isSome_map_find? Service.fullName _ _ fullName).trans (or_iff_right ?_).symm
    rintro ⟨_, _, named, _⟩
    cases named

/-- A failure to look a subject up counts as if the subject were not there. -/
theorem given_documentation?_join (answers : Answers) (subject : Subject) :
    (subject.documentation?.run.given answers).toOption.join = subject.documented? answers := by
  cases subject with
  | entity id =>
    rw [documentation?, Inquiry.given_bind, Inquiry.given_currentEntity, documented?]
    unfold Answers.states Answers.entries
    cases answers.read (.entity id) >>= readEntity with
    | error cause => cases answers.list .states <;> rfl
    | ok live =>
      cases live with
      | some state => rfl
      | none => cases answers.list .states <;> rfl
  | service fullName =>
    rw [documentation?, Inquiry.given_bind, Inquiry.given_service, documented?]
    unfold Answers.services Answers.entries
    cases answers.list .services <;> rfl

end Subject

/-! ## What an item comes to -/

namespace Item

variable {item : Item}

/-- An item that names nothing is not asked about. -/
theorem resolve_of_subject?_eq_none (nothing : item.subject? = none) :
    item.resolve = pure item := by
  unfold resolve
  split
  next => rfl
  next subject found => cases nothing.symm.trans found

/-- What an item comes to with given answers. -/
theorem given_resolve (item : Item) (answers : Answers) :
    item.resolve.given answers = item.documentedBy (item.documented? answers) := by
  cases named : item.subject? with
  | none =>
    rw [documented?, named, resolve_of_subject?_eq_none named]
    rfl
  | some subject =>
    rw [documented?, named, Option.bind_some, ← Subject.given_documentation?_join, resolve_eq named,
      Activity.given_bind]
    match subject.documentation?.run.given answers with
    | .ok (some text) => rfl
    | .ok none => rfl
    | .error cause => rfl

theorem isSome_documented?_iff (item : Item) (answers : Answers) :
    (item.documented? answers).isSome ↔
      ∃ subject, item.subject? = some subject ∧ subject.IsFound answers := by
  cases named : item.subject? with
  | none =>
    rw [documented?, named]
    exact iff_of_false nofun nofun
  | some subject =>
    rw [documented?, named, Option.bind_some, Subject.isSome_documented?_iff]
    constructor
    · intro found
      exact ⟨subject, rfl, found⟩
    · rintro ⟨_, ⟨rfl⟩, found⟩
      exact found

end Item

/-- Whatever the payload of an item is and whatever the questions about it are answered, the item
comes back with nothing but its documentation changed, and that is made anew exactly if the payload
names a subject that is found.

In a run the item is back after two replies at most, whatever they are, and whatever the other
activities have done to the lists meanwhile.  Its live state is what the first reply says; the list
comes from the store, or from the next reply, or, when this fails, from the list that was there. -/
theorem resolutions_are_atomic (item : Item) :
    (∀ answers : Answers,
      item.resolve.given answers = item.documentedBy (item.documented? answers) ∧
        ((item.documented? answers).isSome ↔
          ∃ subject, item.subject? = some subject ∧ subject.IsFound answers)) ∧
      ∀ (now : Moment) (store : Store) (first second : Visit) (earlier middle later : Archive),
        earlier.Keeps store → middle.Keeps first.store → later.Keeps second.store →
          middle.Extends earlier → later.Extends middle →
            ((item.resolve.advance now store).1.visit first).visit second =
              .finished (item.documentedBy
                (item.documented? (item.answersIn now store first second))) := by
  refine ⟨fun answers => ⟨item.given_resolve answers, item.isSome_documented?_iff answers⟩, ?_⟩
  intro now store first second earlier middle later keeps kept stored extended grown
  rw [← item.given_resolve]
  cases named : item.subject? with
  | none =>
    rw [Item.resolve_of_subject?_eq_none named]
    rfl
  | some subject =>
    cases subject with
    | entity id =>
      refine Activity.visits_of_reads (Item.reads_resolve named) (Item.indexes_resolve named) keeps
        kept stored extended grown rfl ?_
      simp only [Item.answersIn, named]
    | service fullName =>
      have indexes : item.resolve.Indexes earlier.Holds :=
        (Item.indexes_resolve named).mono fun _ _ => False.elim
      rw [Activity.visit_of_asksOnce (Item.asksOnce_resolve named) indexes keeps kept extended]
      · rfl
      · simp only [Item.answersIn, named]

/-- The light of an old list is documented when neither its state nor the list can be had. -/
theorem an_old_list_documents_the_light :
    let empty := Store.new (some ⟨"http://home:8123/api", "token", 10⟩) 60
    let fetched := empty.lists.store 1 .states [⟨"light.attic", "on", [], none, none⟩]
    let store := { empty with lists := fetched.2 }
    let first : Visit := ⟨101, .error .timedOut, store⟩
    let second : Visit := ⟨102, .error .timedOut, store⟩
    ((lightOffered.resolve.advance 100 store).1.visit first).visit second =
      .finished { lightOffered with documentation := some (.markdown
        "**light.attic**\n\n**Current State:** on\n\n- **Domain:** light") } := by
  intro empty fetched store first second
  have keeps := ((Archive.keeps_new (some ⟨"http://home:8123/api", "token", 10⟩) 60).store 1
    .states fetched.1.value).2
  have ended := (resolutions_are_atomic lightOffered).2 100 store first second _ _ _ keeps keeps
    keeps (.refl _) (.refl _)
  have documented : lightOffered.documented? (lightOffered.answersIn 100 store first second) =
      some "**light.attic**\n\n**Current State:** on\n\n- **Domain:** light" := by
    decide +kernel
  rw [documented] at ended
  exact ended

end HomeConfig
