import HomeConfig.Completion.Resolution
import HomeConfig.Proofs.Completion.Offer
import HomeConfig.Proofs.Live.Lookup
import HomeConfig.Proofs.Live.Settled
import HomeConfig.Proofs.Live.Visit

/-!
# Offered subjects are documented

An item that is offered for an entity or a service carries a payload with its name, and nothing
else does.  When the user looks at the item, the payload is read, and the subject is looked up by
its name.  The live state of an entity may not be had by then; but as long as the lists are the ones
that the item was made from, the subject is on its list, and is documented from there.
-/

namespace HomeConfig

/-! ## Subjects of items -/

namespace Subject

/-- The list that a subject is on. -/
def registry : Subject → Registry
  | entity _ => .states
  | service _ => .services

/-- A subject is on its list. -/
def IsListed (answers : Answers) : Subject → Prop
  | entity id => ∃ state ∈ answers.entries .states, state.id = id
  | service fullName => ∃ listed ∈ answers.entries .services, listed.fullName = fullName

/-- An item has no payload, or that of a subject on its list. -/
def Backs (answers : Answers) (item : Item) : Prop :=
  item.data = none ∨ ∃ subject : Subject, item.data = some subject.data ∧ subject.IsListed answers

end Subject

namespace Candidate

theorem data_argument {typed : Typed} {range : Range} {state : Entity} {item : Item}
    (offered : argument typed range state = some item) :
    item.data = some (Subject.entity state.id).data := by
  rcases Option.map_eq_some_iff.mp offered with ⟨plain, found, rfl⟩
  rcases entity_eq_some found with ⟨_, _, data⟩
  exact data

theorem data_place {kind : Item.Kind} {describe : String → String} {needle : Text} {range : Range}
    {entry : Place} {item : Item} (offered : place kind describe needle range entry = some item) :
    item.data = none := by
  unfold place at offered
  split at offered
  · cases offered
    rfl
  · cases offered

end Candidate

namespace Offer

variable {answers : Answers} {item : Item}

theorem data_of_mem_words {kind : Item.Kind} {table : List (String × String)}
    (member : item ∈ words kind table) : item.data = none := by
  rcases List.mem_map.mp member with ⟨word, _, rfl⟩
  rfl

theorem data_of_mem_functions (member : item ∈ functions) : item.data = none := by
  rcases List.mem_map.mp member with ⟨function, _, rfl⟩
  rfl

theorem data_of_mem_keysOf {seen : List String} {table : List (String × String)}
    (member : item ∈ keysOf seen table) : item.data = none := by
  induction table generalizing seen with
  | nil => cases member
  | cons row rest inductionHypothesis =>
    rw [keysOf] at member
    split at member
    · exact inductionHypothesis member
    · rcases List.mem_cons.mp member with rfl | later
      · rfl
      · exact inductionHypothesis later

theorem backs_template {line : Text} {cursor : Position}
    (member : item ∈ (template line cursor).given answers) : Subject.Backs answers item := by
  rw [given_template] at member
  split at member
  next => exact Or.inl (data_of_mem_functions member)
  next => cases member
  next typed states _ listed =>
    rcases List.mem_append.mp member with found | other
    · rcases List.mem_filterMap.mp found with ⟨state, among, offered⟩
      have whole : answers.entries .states = states := Answers.entries_of_list listed
      refine Or.inr ⟨.entity state.id, Candidate.data_argument offered, state, ?_, rfl⟩
      rw [whole]
      exact among
    · exact Or.inl (data_of_mem_functions other)

theorem data_of_mem_entries {registry : Registry} {candidate : registry.Item → Option Item}
    (none_ : ∀ {entry item}, candidate entry = some item → item.data = none)
    (member : item ∈ (entries registry candidate).given answers) : item.data = none := by
  rcases mem_given_entries.mp member with ⟨entry, _, offered⟩
  exact none_ offered

theorem backs_value {context : Context} {cursor : Position}
    (member : item ∈ (value context cursor).given answers) : Subject.Backs answers item := by
  unfold value at member
  dsimp only at member
  split at member
  · rcases mem_given_entries.mp member with ⟨state, among, offered⟩
    rcases Candidate.entity_eq_some offered with ⟨_, _, data⟩
    exact Or.inr ⟨.entity state.id, data, state, among, rfl⟩
  split at member
  · rcases mem_given_entries.mp member with ⟨listed, among, offered⟩
    rcases Candidate.service_eq_some offered with ⟨_, _, data⟩
    exact Or.inr ⟨.service listed.fullName, data, listed, among, rfl⟩
  -- The items of the other lists name no subject.
  refine Or.inl ?_
  split at member
  · exact data_of_mem_entries Candidate.data_place member
  split at member
  · exact data_of_mem_entries Candidate.data_place member
  split at member
  · exact data_of_mem_entries Candidate.data_place member
  split at member
  · exact data_of_mem_entries Candidate.data_place member
  split at member
  · exact data_of_mem_words member
  split at member
  · exact data_of_mem_words member
  · cases member

theorem backs_ofContext {context : Context} {cursor : Position}
    (member : item ∈ (ofContext context cursor).given answers) : Subject.Backs answers item := by
  unfold ofContext at member
  split at member
  · exact backs_template member
  split at member
  · exact backs_value member
  · exact Or.inl (data_of_mem_keysOf member)

end Offer

/-! ## Documentation -/

namespace Inquiry

theorem given_entity (answers : Answers) (id : String) :
    (entity id).run.given answers =
      answers.states.map fun states => states.reverse.find? fun state => state.id = id := by
  rw [entity, given_bind, given_entityIndex]
  unfold Answers.states
  cases answers.list .states with
  | error cause => rfl
  | ok states => exact congrArg Except.ok (EntityTable.find?_ofList states.value id)

/-- The live state of an entity, unless it cannot be had; then the state that is in the list. -/
theorem given_currentEntity (answers : Answers) (id : String) :
    (currentEntity id).run.given answers =
      match answers.read (.entity id) >>= readEntity with
      | .ok (some live) => .ok (some live)
      | _ => answers.states.map fun states => states.reverse.find? fun state => state.id = id := by
  rw [← given_entity]
  have read : (liveEntity id).run.given answers = answers.read (.entity id) >>= readEntity := by
    rw [liveEntity, given_bind]
    rfl
  rw [currentEntity, ExceptT.run_mk, Activity.given_bind, read]
  cases answers.read (.entity id) >>= readEntity with
  | error cause => rfl
  | ok live => cases live <;> rfl

theorem given_service (answers : Answers) (fullName : String) :
    (service fullName).run.given answers =
      answers.services.map fun services => services.find? fun found => found.fullName = fullName := by
  rw [service, given_bind, given_services]
  cases answers.services <;> rfl

/-! ### What is asked for -/

theorem asksOnce_entity (id : String) : (entity id).run.AsksOnce (· = .states) := by
  rw [entity, run_entityIndex_bind]
  refine ⟨rfl, fun answer => ?_⟩
  cases answer with
  | ok states => exact fun index => trivial
  | error cause => trivial

theorem indexes_entity (id : String) : (entity id).run.Indexes fun _ _ => False := by
  refine indexes_entityIndex_bind (fun index => trivial) fun first second same => ?_
  rw [same]

/-- The live state is asked for first, and then at most the list of states. -/
theorem reads_currentEntity (id : String) :
    (currentEntity id).run.Reads (.entity id) (· = .states) := by
  have live : (liveEntity id).run.Reads (.entity id) fun _ => False :=
    ⟨rfl, fun answer => by cases answer <;> trivial⟩
  refine live.bind fun found => ?_
  match found with
  | .ok (some state) => trivial
  | .ok none => exact asksOnce_entity id
  | .error cause => exact asksOnce_entity id

theorem indexes_currentEntity (id : String) :
    (currentEntity id).run.Indexes fun _ _ => False := by
  have live : (liveEntity id).run.Indexes fun _ _ => False := fun answer => by
    cases answer <;> trivial
  refine live.bind fun found => ?_
  match found with
  | .ok (some state) => trivial
  | .ok none => exact indexes_entity id
  | .error cause => exact indexes_entity id

end Inquiry

namespace Subject

/-- The documentation of a subject.  That of an entity is made of its live state or, if this cannot
be had, of the last listed one; that of a service is made of the first listed one. -/
def documented? (answers : Answers) : Subject → Option String
  | entity id =>
    match answers.read (.entity id) >>= readEntity with
    | .ok (some live) => some live.documentation
    | _ =>
      ((answers.entries .states).reverse.find? fun state => state.id = id).map Entity.documentation
  | service fullName =>
    ((answers.entries .services).find? fun found => found.fullName = fullName).map
      Service.documentation

/-- A subject that is listed is documented. -/
theorem given_documentation? {answers : Answers} {subject : Subject}
    (listed : subject.IsListed answers) :
    ∃ text, subject.documented? answers = some text ∧
      subject.documentation?.run.given answers = .ok (some text) := by
  cases subject with
  | entity id =>
    rcases listed with ⟨state, member, named⟩
    have states : answers.states = .ok (answers.entries .states) := Answers.list_of_mem member
    have found : ((answers.entries .states).reverse.find? fun state => state.id = id).isSome :=
      List.find?_isSome.mpr ⟨state, List.mem_reverse.mpr member, decide_eq_true named⟩
    rcases Option.isSome_iff_exists.mp found with ⟨last, isLast⟩
    rw [documentation?, Inquiry.given_bind, Inquiry.given_currentEntity, states, documented?]
    have kept := congrArg (Option.map Entity.documentation) isLast
    cases answers.read (.entity id) >>= readEntity with
    | ok found =>
      cases found with
      | some live => exact ⟨live.documentation, rfl, rfl⟩
      | none => exact ⟨last.documentation, kept, congrArg Except.ok kept⟩
    | error cause => exact ⟨last.documentation, kept, congrArg Except.ok kept⟩
  | service fullName =>
    rcases listed with ⟨service, member, named⟩
    have services : answers.services = .ok (answers.entries .services) := Answers.list_of_mem member
    have found : ((answers.entries .services).find? fun found => found.fullName = fullName).isSome :=
      List.find?_isSome.mpr ⟨service, member, decide_eq_true named⟩
    rcases Option.isSome_iff_exists.mp found with ⟨first, isFirst⟩
    rw [documentation?, Inquiry.given_bind, Inquiry.given_service, services]
    have kept := congrArg (Option.map Service.documentation) isFirst
    exact ⟨first.documentation, kept, congrArg Except.ok kept⟩

theorem indexes_documentation? (subject : Subject) :
    subject.documentation?.run.Indexes fun _ _ => False := by
  cases subject with
  | entity id =>
    refine (Inquiry.indexes_currentEntity id).bind fun found => ?_
    cases found <;> trivial
  | service fullName =>
    intro answer
    cases answer <;> trivial

end Subject

namespace Item

variable {item : Item} {subject : Subject}

theorem bind_ofData?_of_data (payload : item.data = some subject.data) :
    item.data.bind Subject.ofData? = some subject := by
  rw [payload, Option.bind_some, Subject.ofData?_data]

theorem resolve_eq (named : item.data.bind Subject.ofData? = some subject) :
    item.resolve = subject.documentation?.run >>= fun
      | .ok (some text) => pure { item with documentation := some (.markdown text) }
      | .ok none => pure item
      | .error cause => do
        Activity.report (.resolveFailed item.label cause)
        return item := by
  unfold resolve
  split
  next nothing => cases named.symm.trans nothing
  next other found =>
    cases named.symm.trans found
    exact congrArg (subject.documentation?.run >>= ·) (funext fun outcome => by
      cases outcome with
      | error cause => rfl
      | ok text => cases text <;> rfl)

theorem reads_resolve {id : String} (named : item.data.bind Subject.ofData? = some (.entity id)) :
    item.resolve.Reads (.entity id) (· = .states) := by
  rw [resolve_eq named]
  have documentation : (Subject.entity id).documentation?.run.Reads (.entity id) (· = .states) :=
    (Inquiry.reads_currentEntity id).bind_quiet fun found => by cases found <;> trivial
  refine documentation.bind_quiet fun outcome => ?_
  match outcome with
  | .ok (some text) | .ok none | .error cause => trivial

theorem asksOnce_resolve {fullName : String}
    (named : item.data.bind Subject.ofData? = some (.service fullName)) :
    item.resolve.AsksOnce (· = .services) := by
  rw [resolve_eq named]
  have documentation : (Subject.service fullName).documentation?.run.AsksOnce (· = .services) :=
    ⟨rfl, fun answer => by cases answer <;> trivial⟩
  refine documentation.bind_quiet fun outcome => ?_
  match outcome with
  | .ok (some text) | .ok none | .error cause => trivial

theorem readsFirst_resolve (named : item.data.bind Subject.ofData? = some subject) :
    item.resolve.ReadsFirst (· = subject.registry) := by
  cases subject with
  | entity id => exact (reads_resolve named).readsFirst
  | service fullName => exact .nothing (asksOnce_resolve named).asksOnly

theorem indexes_resolve (named : item.data.bind Subject.ofData? = some subject) :
    item.resolve.Indexes fun _ _ => False := by
  rw [resolve_eq named]
  refine subject.indexes_documentation?.bind fun found => ?_
  match found with
  | .ok (some text) | .ok none | .error cause => trivial

end Item

/-- An item that is offered with a payload is documented, whatever the live state of its subject is,
and else it stays as it is.  The documentation is that of the subject in the payload.

So it is in a run as well.  While the list that the subject is on stays fresh, the documentation
takes one reply at most, and this may be any reply. -/
theorem offered_subjects_are_documented (text : Text) (cursor : Position) (answers : Answers)
    {item : Item} (offered : item ∈ (complete text cursor).given answers) {data : Json}
    (payload : item.data = some data) :
    ∃ subject : Subject, data = subject.data ∧
      (∀ read, ∃ text, subject.documented? (answers.withRead read) = some text ∧
        item.resolve.given (answers.withRead read) =
          { item with documentation := some (.markdown text) }) ∧
      ∀ (archive : Archive) (store : Store) (now : Moment), archive.Keeps store →
        store.Offers now answers (· = subject.registry) →
          (item.resolve.advance now store).1.Settles answers (· = subject.registry) fun result =>
            ∃ text, result = { item with documentation := some (.markdown text) } := by
  rw [Offer.given_complete] at offered
  rcases Offer.backs_ofContext offered with nothing | ⟨subject, names, listed⟩
  · cases payload.symm.trans nothing
  have named := Item.bind_ofData?_of_data names
  have always (read : Endpoint → Except Failure Json) :
      ∃ text, subject.documented? (answers.withRead read) = some text ∧
        item.resolve.given (answers.withRead read) =
          { item with documentation := some (.markdown text) } := by
    have stays : subject.IsListed (answers.withRead read) := by
      cases subject <;> exact listed
    rcases Subject.given_documentation? stays with ⟨text, documented, made⟩
    refine ⟨text, documented, ?_⟩
    rw [Item.resolve_eq named, Activity.given_bind, made]
    rfl
  refine ⟨subject, Option.some.inj (payload.symm.trans names), always, ?_⟩
  intro archive store now keeps offers
  apply Activity.settles_of_offers (Item.readsFirst_resolve named) (Item.indexes_resolve named)
    keeps offers
  intro read
  rcases always read with ⟨text, _, made⟩
  exact ⟨text, made⟩

/-- A light that is listed twice, first off and then on. -/
def listedTwice : Answers where
  list
    | .states => .ok ⟨[⟨"light.attic", "off", [], none, none⟩,
        ⟨"light.attic", "on", [], none, none⟩], 1, 0⟩
    | _ => .ok ⟨[], 1, 1⟩
  read _ := .ok .null

/-- What is offered for the light behind five characters. -/
def lightOffered : Item where
  label := "light.attic"
  kind := some .value
  detail := some "light.attic"
  sortText := some "1light.attic"
  edit := some ⟨⟨⟨0, 11⟩, ⟨0, 16⟩⟩, "light.attic"⟩
  data := some (Subject.entity "light.attic").data

theorem the_light_is_documented_without_a_reply :
    let line := "entity_id: attic".toList
    let timeOut := Reply.content "http://home:8123/api/states/light.attic" (.error .timedOut)
    let fetched := (Store.new (some ⟨"http://home:8123/api", "token", 10⟩) 60).lists.store 1 .states
      [⟨"light.attic", "off", [], none, none⟩, ⟨"light.attic", "on", [], none, none⟩]
    let store := { Store.new (some ⟨"http://home:8123/api", "token", 10⟩) 60 with
      lists := fetched.2 }
    lightOffered ∈ (complete line ⟨0, 16⟩).given listedTwice ∧
      lightOffered.resolve.given (listedTwice.withRead fun _ => timeOut) =
        { lightOffered with documentation := some (.markdown
          "**light.attic**\n\n**Current State:** on\n\n- **Domain:** light") } ∧
      (lightOffered.resolve.advance 2 store).1.Settles listedTwice (· = .states) fun result =>
        ∃ text, result = { lightOffered with documentation := some (.markdown text) } := by
  intro line timeOut fetched store
  have both : (complete line ⟨0, 16⟩).given listedTwice = [lightOffered, lightOffered] := rfl
  have offered : lightOffered ∈ (complete line ⟨0, 16⟩).given listedTwice := by simp [both]
  rcases offered_subjects_are_documented line ⟨0, 16⟩ listedTwice offered rfl with
    ⟨subject, names, always, runs⟩
  have same : subject = .entity "light.attic" := by
    have read := congrArg Subject.ofData? names
    rw [Subject.ofData?_data, Subject.ofData?_data] at read
    exact (Option.some.inj read).symm
  subst same
  refine ⟨offered, ?_, ?_⟩
  · rcases always (fun _ => timeOut) with ⟨text, documented, made⟩
    cases documented
    exact made
  · have keeps := (Archive.keeps_new (some ⟨"http://home:8123/api", "token", 10⟩) 60).store 1
      .states fetched.1.value
    have offers : store.Offers 2 listedTwice (· = .states) := by
      rintro registry rfl
      have found := Cache.find?_store_self (Store.new (some ⟨"http://home:8123/api", "token", 10⟩)
        60).lists 1 .states fetched.1.value
      refine ⟨fetched.1, Option.filter_eq_some_iff.mpr ⟨found, ?_⟩, rfl⟩
      decide +kernel
    exact runs _ store 2 keeps.2 offers

end HomeConfig
