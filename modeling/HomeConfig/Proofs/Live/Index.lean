import HomeConfig.Diagnosis.Check
import HomeConfig.Proofs.Live.Run

/-!
# The index of the states

The states of all entities are looked up by identifier in a table, and one such table is kept for
all activities of a store.  It is built anew only when an activity has been served another list than
the one it was built from, which is told by the serial number of the list.  Between two lookups the
list may be fetched again, dropped, or brought back by a failure that serves an old one, and
activities that were served different lists take turns with the one table.

None of this can be seen.  `Activity.unshared` is an activity that keeps no table but builds each
one from the list that it has been served, and a run of activities does what the run of their
unshared forms does (`Mirrors`).  What carries this is that every list has a number of its own: an
`Archive` remembers for each number which list was stored under it, and the table that is kept, the
lists of the store and those that waiting activities may still be served all agree with it.
-/

namespace HomeConfig

/-! ## Tables -/

namespace EntityTable

theorem find?_insert (table : EntityTable) (entity : Entity) (id : String) :
    (table.insert entity).find? id = if id = entity.id then some entity else table.find? id := by
  induction table with
  | nil =>
    by_cases same : id = entity.id
    · simp [insert, find?, same]
    · have apart : (id == entity.id) = false := beq_eq_false_iff_ne.mpr same
      simp [insert, find?, List.lookup_cons, apart, same]
  | cons head rest inductionHypothesis =>
    obtain ⟨other, old⟩ := head
    simp only [find?] at inductionHypothesis
    by_cases here : other = entity.id
    · subst here
      by_cases same : id = entity.id
      · simp [insert, find?, same]
      · have apart : (id == entity.id) = false := beq_eq_false_iff_ne.mpr same
        simp [insert, find?, List.lookup_cons, apart, same]
    · by_cases found : id = other
      · subst found
        simp [insert, find?, here]
      · have apart : (id == other) = false := beq_eq_false_iff_ne.mpr found
        simp [insert, find?, List.lookup_cons, apart, here, inductionHypothesis]

/-- Of several entities with one identifier the last one is found. -/
theorem find?_ofList (entities : List Entity) (id : String) :
    (ofList entities).find? id = entities.reverse.find? fun entity => entity.id = id := by
  induction entities using List.reverseRecOn with
  | nil => rfl
  | append_singleton entities entity inductionHypothesis =>
    have last : ofList (entities ++ [entity]) = (ofList entities).insert entity := by
      simp [ofList]
    rw [last, find?_insert, inductionHypothesis, List.reverse_append]
    by_cases same : id = entity.id
    · simp [same]
    · simp [same, Ne.symm same]

theorem find?_ofList_eq_none_iff (entities : List Entity) (id : String) :
    (ofList entities).find? id = none ↔ ∀ entity ∈ entities, entity.id ≠ id := by
  simp [find?_ofList, List.find?_eq_none]

end EntityTable

/-- The index that is built from a list of states alone. -/
def EntityIndex.built (states : Listing .states) : EntityIndex :=
  ⟨states.serial, 0, EntityTable.ofList states.value⟩

/-! ## Activities that keep no index -/

namespace Activity

variable {α β : Type}

/-- An activity that keeps no index: each one that it asks for is built from the list. -/
def unshared : Activity α → Activity α
  | finish result => finish result
  | note notice rest => note notice rest.unshared
  | list registry next => list registry fun answer => (next answer).unshared
  | index states next => (next (.built states)).unshared
  | read endpoint next => read endpoint fun answer => (next answer).unshared

theorem unshared_bind (activity : Activity α) (next : α → Activity β) :
    (activity.bind next).unshared = activity.unshared.bind fun result => (next result).unshared := by
  induction activity with
  | finish result => rfl
  | note notice rest inductionHypothesis =>
    exact congrArg (note notice) inductionHypothesis
  | list registry after inductionHypothesis =>
    exact congrArg (list registry) (funext inductionHypothesis)
  | index states after inductionHypothesis => exact inductionHypothesis _
  | read endpoint after inductionHypothesis =>
    exact congrArg (read endpoint) (funext inductionHypothesis)

/-- The answer to a question for a list is the given entry. -/
def Serves (registry : Registry) (answer : Except Failure (Listing registry)) (other : Registry)
    (entry : Listing other) : Prop :=
  (⟨registry, answer⟩ : (registry : Registry) × Except Failure (Listing registry)) =
    ⟨other, .ok entry⟩

/-- An activity asks for the index of a list only if it has been served that list, now or before,
and sees no more of an index than its table. -/
def Indexes (served : (registry : Registry) → Listing registry → Prop) : Activity α → Prop
  | finish _ => True
  | note _ rest => rest.Indexes served
  | list registry next => ∀ answer, (next answer).Indexes fun other entry =>
      served other entry ∨ Serves registry answer other entry
  | index states next => served .states states ∧ ∀ found, (next found).Indexes served ∧
      (found.table = EntityTable.ofList states.value → next found = next (.built states))
  | read _ next => ∀ answer, (next answer).Indexes served

variable {served more : (registry : Registry) → Listing registry → Prop}

theorem Indexes.mono {activity : Activity α} (indexes : activity.Indexes served)
    (grows : ∀ registry entry, served registry entry → more registry entry) :
    activity.Indexes more := by
  induction activity generalizing served more with
  | finish result => trivial
  | note notice rest inductionHypothesis => exact inductionHypothesis indexes grows
  | list registry next inductionHypothesis =>
    intro answer
    refine inductionHypothesis answer (indexes answer) fun other entry either => ?_
    exact either.imp_left (grows other entry)
  | index states next inductionHypothesis =>
    refine ⟨grows _ _ indexes.1, fun found => ⟨?_, (indexes.2 found).2⟩⟩
    exact inductionHypothesis found (indexes.2 found).1 grows
  | read endpoint next inductionHypothesis =>
    exact fun answer => inductionHypothesis answer (indexes answer) grows

theorem Indexes.bind {activity : Activity α} {next : α → Activity β}
    (indexes : activity.Indexes served) (goesOn : ∀ result, (next result).Indexes served) :
    (activity.bind next).Indexes served := by
  induction activity generalizing served with
  | finish result => exact goesOn result
  | note notice rest inductionHypothesis => exact inductionHypothesis indexes goesOn
  | list registry after inductionHypothesis =>
    intro answer
    refine inductionHypothesis answer (indexes answer) fun result => ?_
    exact (goesOn result).mono fun _ _ => Or.inl
  | index states after inductionHypothesis =>
    refine ⟨indexes.1, fun found => ⟨inductionHypothesis found (indexes.2 found).1 goesOn, ?_⟩⟩
    intro same
    exact congrArg (fun rest => rest.bind next) ((indexes.2 found).2 same)
  | read endpoint after inductionHypothesis =>
    exact fun answer => inductionHypothesis answer (indexes answer) goesOn

end Activity

namespace Progress

variable {α : Type}

/-- How far an activity that keeps no index has come. -/
def unshared : Progress α → Progress α
  | finished result => finished result
  | listing access registry previous next =>
    listing access registry previous fun answer => (next answer).unshared
  | reading access endpoint next => reading access endpoint fun answer => (next answer).unshared

@[simp] theorem request?_unshared (progress : Progress α) :
    progress.unshared.request? = progress.request? := by
  cases progress <;> rfl

end Progress

/-! ## The lists that have been stored -/

/-- The lists that have been stored, each under its serial number. -/
abbrev Archive := Nat → Option ((registry : Registry) × Items registry)

namespace Archive

/-- An entry holds the list that was stored under its number. -/
def Holds (archive : Archive) (registry : Registry) (entry : Listing registry) : Prop :=
  archive entry.serial = some ⟨registry, entry.value⟩

/-- An archive remembers everything that another one does. -/
def Extends (later archive : Archive) : Prop :=
  ∀ serial list, archive serial = some list → later serial = some list

variable {archive later : Archive}

theorem Extends.holds (extends_ : later.Extends archive) {registry : Registry}
    {entry : Listing registry} (holds : archive.Holds registry entry) :
    later.Holds registry entry :=
  extends_ _ _ holds

theorem Extends.refl (archive : Archive) : archive.Extends archive :=
  fun _ _ same => same

theorem Extends.trans {last : Archive} (second : last.Extends later)
    (first : later.Extends archive) : last.Extends archive :=
  fun serial list stored => second serial list (first serial list stored)

/-- A list is stored under the next number. -/
def add (archive : Archive) (number : Nat) (registry : Registry) (items : Items registry) :
    Archive :=
  fun serial => if serial = number then some ⟨registry, items⟩ else archive serial

/-- Everything that a store keeps agrees with an archive, which knows no list yet under the numbers
to come. -/
structure Keeps (archive : Archive) (store : Store) : Prop where
  listed (registry : Registry) (entry : Listing registry) :
    store.lists.find? registry = some entry → archive.Holds registry entry
  indexed (index : EntityIndex) : store.index = some index →
    ∃ states, archive index.source = some ⟨.states, states⟩ ∧
      index.table = EntityTable.ofList states
  unused (serial : Nat) : store.lists.stored ≤ serial → archive serial = none

theorem keeps_new (access : Option Access) (timeToLive : Moment) :
    Keeps (fun _ => none) (Store.new access timeToLive) where
  listed := nofun
  indexed := nofun
  unused := fun _ _ => rfl

theorem Keeps.add_extends {store : Store} (keeps : archive.Keeps store) (registry : Registry)
    (items : Items registry) : (archive.add store.lists.stored registry items).Extends archive := by
  intro serial list stored
  have old : serial ≠ store.lists.stored := by
    rintro rfl
    cases (keeps.unused _ (Nat.le_refl _)).symm.trans stored
  rw [add, if_neg old, stored]

/-- A list that is stored is remembered, and everything else still agrees. -/
theorem Keeps.store {store : Store} (keeps : archive.Keeps store) (now : Moment)
    (registry : Registry) (items : Items registry) :
    let stored := store.lists.store now registry items
    (archive.add store.lists.stored registry items).Holds registry stored.1 ∧
      (archive.add store.lists.stored registry items).Keeps { store with lists := stored.2 } := by
  intro stored
  have extends_ := keeps.add_extends registry items
  have holds : (archive.add store.lists.stored registry items).Holds registry stored.1 :=
    if_pos rfl
  refine ⟨holds, ?_, ?_, ?_⟩
  · intro other entry found
    by_cases same : other = registry
    · subst same
      have last : some stored.1 = some entry :=
        (Cache.find?_store_self store.lists now other items).symm.trans found
      rw [← Option.some.inj last]
      exact holds
    · have old : store.lists.find? other = some entry :=
        (Cache.find?_store_of_ne store.lists now same items).symm.trans found
      exact extends_.holds (keeps.listed other entry old)
  · intro index found
    rcases keeps.indexed index found with ⟨states, source, table⟩
    exact ⟨states, extends_ _ _ source, table⟩
  · intro serial beyond
    have later : store.lists.stored + 1 ≤ serial := beyond
    rw [add, if_neg (by omega), keeps.unused serial (by omega)]

end Archive

namespace Store

/-- A store without an index. -/
def unshared (store : Store) : Store :=
  { store with index := none, built := 0 }

variable {archive : Archive} {store : Store}

theorem unshared_connect (store : Store) : store.connect.unshared = store.unshared.connect := by
  unfold connect unshared
  split <;> rfl

theorem keeps_connect (keeps : archive.Keeps store) : archive.Keeps store.connect := by
  unfold connect
  split
  · exact keeps
  · exact ⟨keeps.listed, keeps.indexed, keeps.unused⟩

/-- The index of a list that was stored has the table of that list. -/
theorem indexOf_spec (keeps : archive.Keeps store) {states : Listing .states}
    (holds : archive.Holds .states states) :
    (store.indexOf states).1.table = EntityTable.ofList states.value ∧
      (store.indexOf states).2.unshared = store.unshared ∧
      archive.Keeps (store.indexOf states).2 := by
  have built : archive.Keeps { store with
      index := some ⟨states.serial, store.built, EntityTable.ofList states.value⟩
      built := store.built + 1 } := by
    refine ⟨keeps.listed, ?_, keeps.unused⟩
    rintro index ⟨rfl⟩
    exact ⟨states.value, holds, rfl⟩
  unfold indexOf
  split
  next index kept =>
    split
    next same =>
      -- The table that is kept was built from the list with this number, and there is only one.
      rcases keeps.indexed index kept with ⟨other, source, table⟩
      have both : some (Sigma.mk Registry.states other) = some ⟨.states, states.value⟩ := by
        rw [← source, same]
        exact holds
      cases both
      exact ⟨table, rfl, keeps⟩
    next => exact ⟨rfl, rfl, built⟩
  next => exact ⟨rfl, rfl, built⟩

/-- The end of a fetch leaves everything remembered, and so is the list that is served. -/
theorem settle_spec (keeps : archive.Keeps store) (now : Moment) (registry : Registry)
    {previous : Option (Listing registry)}
    (held : ∀ entry, previous = some entry → archive.Holds registry entry)
    (outcome : Except Failure (List registry.Item)) :
    (store.unshared.settle now registry previous outcome =
      ((store.settle now registry previous outcome).1,
        (store.settle now registry previous outcome).2.1.unshared,
        (store.settle now registry previous outcome).2.2)) ∧
      ∃ later : Archive, later.Extends archive ∧
        later.Keeps (store.settle now registry previous outcome).2.1 ∧
        ∀ entry, (store.settle now registry previous outcome).1 = .ok entry →
          later.Holds registry entry := by
  refine ⟨rfl, ?_⟩
  cases outcome with
  | ok items =>
    have stored := keeps.store now registry items
    refine ⟨_, keeps.add_extends registry items, stored.2, ?_⟩
    rintro entry ⟨rfl⟩
    exact stored.1
  | error cause =>
    refine ⟨archive, .refl archive, ?_⟩
    cases previous with
    | some old =>
      refine ⟨keeps, ?_⟩
      rintro entry ⟨rfl⟩
      exact held old rfl
    | none => exact ⟨keeps, nofun⟩

end Store

/-! ## Running without an index -/

namespace Progress

variable {α : Type} {archive later : Archive}

/-- An activity that waits will ask for the index only of lists that agree with an archive, be they
served by then or only now. -/
def Indexes (archive : Archive) : Progress α → Prop
  | finished _ => True
  | listing _ registry previous next =>
    (∀ entry, previous = some entry → archive.Holds registry entry) ∧
      ∀ answer, (next answer).Indexes fun other entry =>
        archive.Holds other entry ∨ Activity.Serves registry answer other entry
  | reading _ _ next => ∀ answer, (next answer).Indexes archive.Holds

theorem Indexes.extend {progress : Progress α} (indexes : progress.Indexes archive)
    (extends_ : later.Extends archive) : progress.Indexes later := by
  cases progress with
  | finished result => trivial
  | listing access registry previous next =>
    refine ⟨fun entry old => extends_.holds (indexes.1 entry old), fun answer => ?_⟩
    exact (indexes.2 answer).mono fun _ _ either => either.imp_left extends_.holds
  | reading access endpoint next =>
    exact fun answer => (indexes answer).mono fun _ _ => extends_.holds

/-- A step of an activity that keeps no index is the step of the activity itself, which leaves
everything remembered. -/
structure Matches (archive : Archive) (made plain : Progress α × Store × List Notice) : Prop where
  same : plain = (made.1.unshared, made.2.1.unshared, made.2.2)
  kept : ∃ later : Archive, later.Extends archive ∧ later.Keeps made.2.1 ∧ made.1.Indexes later

theorem Matches.notices {made plain : Progress α × Store × List Notice}
    (matches_ : Matches later made plain) (extends_ : later.Extends archive)
    (earlier : List Notice) :
    Matches archive (made.1, made.2.1, earlier ++ made.2.2)
      (plain.1, plain.2.1, earlier ++ plain.2.2) := by
  rcases matches_.kept with ⟨last, extended, keeps, indexes⟩
  refine ⟨?_, last, extended.trans extends_, keeps, indexes⟩
  rw [matches_.same]

end Progress

namespace Activity

variable {α : Type}

/-- An activity that is served a list goes on with a list that is remembered. -/
theorem indexes_served {archive : Archive} {registry : Registry}
    {next : Except Failure (Listing registry) → Activity α}
    (indexes : ∀ answer, (next answer).Indexes fun other entry =>
      archive.Holds other entry ∨ Serves registry answer other entry)
    {answer : Except Failure (Listing registry)}
    (holds : ∀ entry, answer = .ok entry → archive.Holds registry entry) :
    (next answer).Indexes archive.Holds := by
  refine (indexes answer).mono ?_
  rintro other entry (old | new)
  · exact old
  · cases new
    exact holds entry rfl

theorem advance_unshared (activity : Activity α) (now : Moment) {archive : Archive} {store : Store}
    (indexes : activity.Indexes archive.Holds) (keeps : archive.Keeps store) :
    Progress.Matches archive (activity.advance now store)
      (activity.unshared.advance now store.unshared) := by
  induction activity generalizing archive store with
  | finish result => exact ⟨rfl, archive, .refl archive, keeps, trivial⟩
  | note notice rest inductionHypothesis =>
    exact (inductionHypothesis indexes keeps).notices (.refl archive) [notice]
  | list registry next inductionHypothesis =>
    simp only [unshared, advance]
    have lists : store.unshared.lists = store.lists := rfl
    have access : store.unshared.access = store.access := rfl
    rw [lists, access]
    cases fresh : store.lists.fresh? now registry with
    | some entry =>
      have found : store.lists.find? registry = some entry :=
        (Option.filter_eq_some_iff.mp fresh).1
      refine inductionHypothesis (.ok entry) (indexes_served indexes ?_) keeps
      rintro other ⟨rfl⟩
      exact keeps.listed registry entry found
    | none =>
      have held : ∀ entry, store.lists.find? registry = some entry →
          archive.Holds registry entry := keeps.listed registry
      cases source : store.access with
      | some access =>
        refine ⟨?_, archive, .refl archive, Store.keeps_connect keeps, held, indexes⟩
        rw [← Store.unshared_connect]
        rfl
      | none =>
        -- Without a connection the list is empty, and it is stored like any other.
        obtain ⟨same, later, extends_, kept, served⟩ :=
          Store.settle_spec keeps now registry held (.ok [])
        simp only [same]
        have grown : ∀ answer, (next answer).Indexes fun other entry =>
            later.Holds other entry ∨ Serves registry answer other entry := fun answer =>
          (indexes answer).mono fun _ _ either => either.imp_left extends_.holds
        exact (inductionHypothesis _ (indexes_served grown served) kept).notices extends_ _
  | index states next inductionHypothesis =>
    obtain ⟨table, same, kept⟩ := Store.indexOf_spec keeps indexes.1
    have rest := indexes.2 (store.indexOf states).1
    have goesOn := inductionHypothesis _ rest.1 kept
    rw [same, rest.2 table] at goesOn
    simpa only [advance, unshared, rest.2 table] using goesOn
  | read endpoint next inductionHypothesis =>
    simp only [unshared, advance]
    have access : store.unshared.access = store.access := rfl
    rw [access]
    cases source : store.access with
    | some access =>
      refine ⟨?_, archive, .refl archive, Store.keeps_connect keeps, indexes⟩
      rw [← Store.unshared_connect]
      rfl
    | none => exact inductionHypothesis _ (indexes _) keeps

end Activity

theorem Progress.resume_unshared {α : Type} (progress : Progress α) (now : Moment) (reply : Reply)
    {archive : Archive} {store : Store} (indexes : progress.Indexes archive)
    (keeps : archive.Keeps store) :
    Matches archive (progress.resume now reply store)
      (progress.unshared.resume now reply store.unshared) := by
  cases progress with
  | finished result => exact ⟨rfl, archive, .refl archive, keeps, trivial⟩
  | listing access registry previous next =>
    obtain ⟨same, later, extends_, kept, served⟩ := Store.settle_spec keeps now registry indexes.1
      (registry.ofReply (access.url registry.endpoint) reply)
    simp only [unshared, resume, same]
    have grown : ∀ answer, (next answer).Indexes fun other entry =>
        later.Holds other entry ∨ Activity.Serves registry answer other entry := fun answer =>
      (indexes.2 answer).mono fun _ _ either => either.imp_left extends_.holds
    have goesOn := (next _).advance_unshared now (Activity.indexes_served grown served) kept
    exact goesOn.notices extends_ _
  | reading access endpoint next =>
    exact (next _).advance_unshared now (indexes _) keeps

namespace Work

variable {ι α : Type}

namespace Event

/-- The same event, but an activity that begins keeps no index. -/
def unshared : Event ι α → Event ι α
  | begin job now activity => begin job now activity.unshared
  | replied job now reply => replied job now reply
  | dropped job => dropped job
  | invalidated => invalidated

/-- An activity that begins asks for the index only of lists that it has been served. -/
def Indexes : Event ι α → Prop
  | begin _ _ activity => activity.Indexes fun _ _ => False
  | _ => True

end Event

variable [DecidableEq ι]

/-- Work without an index has the store and the jobs of the work itself, which agree with the lists
that have been stored. -/
structure Mirrors (work plain : Work ι α) (archive : Archive) : Prop where
  store : plain.store = work.store.unshared
  jobs (job : ι) : plain.jobs.find? job = (work.jobs.find? job).map Progress.unshared
  keeps : archive.Keeps work.store
  indexes (job : ι) (progress : Progress α) :
    work.jobs.find? job = some progress → progress.Indexes archive

theorem mirrors_new (access : Option Access) (timeToLive : Moment) :
    Mirrors (new access timeToLive : Work ι α) (new access timeToLive) fun _ => none where
  store := rfl
  jobs := fun _ => rfl
  keeps := Archive.keeps_new access timeToLive
  indexes := nofun

namespace Mirrors

variable {work plain : Work ι α} {archive : Archive}

/-- A job that ends is taken out on both sides. -/
theorem erase (mirrors : Mirrors work plain archive) (job : ι) {later : Archive} {store : Store}
    (extends_ : later.Extends archive) (keeps : later.Keeps store) :
    Mirrors ⟨store, work.jobs.erase job⟩ ⟨store.unshared, plain.jobs.erase job⟩ later where
  store := rfl
  jobs := by
    intro other
    by_cases same : other = job
    · simp [same]
    · rw [Table.find?_erase_of_ne _ same, Table.find?_erase_of_ne _ same]
      exact mirrors.jobs other
  keeps := keeps
  indexes := by
    intro other progress found
    by_cases same : other = job
    · simp [same] at found
    · rw [Table.find?_erase_of_ne _ same] at found
      exact (mirrors.indexes other progress found).extend extends_

/-- A job that waits is kept on both sides. -/
theorem insert (mirrors : Mirrors work plain archive) (job : ι) {later : Archive} {store : Store}
    {progress : Progress α} (extends_ : later.Extends archive) (keeps : later.Keeps store)
    (indexes : progress.Indexes later) :
    Mirrors ⟨store, work.jobs.insert job progress⟩
      ⟨store.unshared, plain.jobs.insert job progress.unshared⟩ later where
  store := rfl
  jobs := by
    intro other
    by_cases same : other = job
    · simp [same]
    · rw [Table.find?_insert_of_ne _ same, Table.find?_insert_of_ne _ same]
      exact mirrors.jobs other
  keeps := keeps
  indexes := by
    intro other kept found
    by_cases same : other = job
    · subst same
      rw [Table.find?_insert_self] at found
      cases found
      exact indexes
    · rw [Table.find?_insert_of_ne _ same] at found
      exact (mirrors.indexes other kept found).extend extends_

/-- Both sides take over how far an activity has come, with the same effects. -/
theorem follow (mirrors : Mirrors work plain archive) (job : ι)
    {made other : Progress α × Store × List Notice}
    (matches_ : Progress.Matches archive made other) :
    (plain.follow job other).1 = (work.follow job made).1 ∧
      ∃ later : Archive, Mirrors (work.follow job made).2 (plain.follow job other).2 later := by
  rcases matches_.kept with ⟨later, extends_, keeps, indexes⟩
  obtain ⟨progress, store, notices⟩ := made
  rw [matches_.same]
  cases progress with
  | finished result => exact ⟨rfl, later, mirrors.erase job extends_ keeps⟩
  | listing access registry previous next =>
    exact ⟨rfl, later, mirrors.insert job extends_ keeps indexes⟩
  | reading access endpoint next =>
    exact ⟨rfl, later, mirrors.insert job extends_ keeps indexes⟩

/-- Whatever happens, both sides do the same. -/
theorem step (mirrors : Mirrors work plain archive) {event : Event ι α}
    (indexes : event.Indexes) :
    (plain.step event.unshared).1 = (work.step event).1 ∧
      ∃ later : Archive, Mirrors (work.next event) (plain.next event.unshared) later := by
  cases event with
  | begin job now activity =>
    have made := activity.advance_unshared now (indexes.mono fun _ _ => False.elim) mirrors.keeps
    rw [← mirrors.store] at made
    exact mirrors.follow job made
  | replied job now reply =>
    have other := mirrors.jobs job
    simp only [next, Work.step, Event.unshared]
    cases found : work.jobs.find? job with
    | none =>
      rw [found] at other
      rw [other]
      exact ⟨rfl, archive, mirrors⟩
    | some progress =>
      rw [found] at other
      rw [other]
      have made := progress.resume_unshared now reply (mirrors.indexes job progress found)
        mirrors.keeps
      rw [← mirrors.store] at made
      exact mirrors.follow job made
  | dropped job =>
    have ended := mirrors.erase job (.refl archive) mirrors.keeps
    rw [← mirrors.store] at ended
    exact ⟨rfl, archive, ended⟩
  | invalidated =>
    have keeps : archive.Keeps work.store.invalidate := by
      refine ⟨fun registry entry found => ?_, mirrors.keeps.indexed, mirrors.keeps.unused⟩
      cases (Cache.find?_invalidate work.store.lists registry).symm.trans found
    exact ⟨rfl, archive, congrArg Store.invalidate mirrors.store, mirrors.jobs, keeps,
      mirrors.indexes⟩

end Mirrors

/-- A run in which activities share one index and the same run in which each of them builds its own
are the same to one who asks. -/
theorem mirrors_after (access : Option Access) (timeToLive : Moment) (events : List (Event ι α))
    (indexes : ∀ event ∈ events, event.Indexes) :
    ∃ archive : Archive, Mirrors ((new access timeToLive).after events)
      ((new access timeToLive).after (events.map Event.unshared)) archive := by
  induction events using List.reverseRecOn with
  | nil => exact ⟨_, mirrors_new access timeToLive⟩
  | append_singleton events event inductionHypothesis =>
    rcases inductionHypothesis fun other member => indexes other (by simp [member]) with
      ⟨archive, mirrors⟩
    rcases (mirrors.step (indexes event (by simp))).2 with ⟨later, mirrored⟩
    refine ⟨later, ?_⟩
    simpa using mirrored

end Work

end HomeConfig
