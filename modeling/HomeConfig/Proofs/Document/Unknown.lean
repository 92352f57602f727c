import HomeConfig.Proofs.Document.Reference
import HomeConfig.Proofs.Live.Given
import HomeConfig.Proofs.Live.Lookup
import HomeConfig.Proofs.Live.Served

/-!
# Unknown names

A check of a document warns of names that the running system does not know.  Which names these are
depends on the lists of states and services alone.  Since references stand apart, no character of a
document is warned of twice, and a name that is not known is warned of once for every reference to
it.
-/

namespace HomeConfig

/-- Whether a diagnostic warns of a name that is unknown. -/
def Diagnostic.namesUnknown (diagnostic : Diagnostic) : Bool :=
  ["unknown-entity", "unknown-service"].contains diagnostic.finding.code

theorem EntityTable.isSome_find?_ofList (entities : List Entity) (id : String) :
    ((ofList entities).find? id).isSome = (entities.map Entity.id).contains id := by
  have absent := find?_ofList_eq_none_iff entities id
  cases found : (ofList entities).find? id with
  | none => simpa using absent.mp found
  | some entity =>
    by_contra missing
    have none_ : (ofList entities).find? id = none := absent.mpr (by simpa using missing)
    rw [none_] at found
    cases found

namespace Check

/-! ## What checks find -/

/-- What a check finds with given answers, nothing if it fails. -/
def found (answers : Answers) (document : CheckedDocument) (check : Check) : List Diagnostic :=
  match (check.run document).run.given answers with
  | .ok found => found
  | .error _ => []

theorem given_runSafely (answers : Answers) (document : CheckedDocument) (check : Check) :
    (check.runSafely document).given answers = check.found answers document := by
  unfold runSafely found
  rw [Activity.given_bind]
  cases (check.run document).run.given answers <;> rfl

theorem given_runAll (answers : Answers) (document : CheckedDocument) (checks : List Check) :
    (runAll document checks).given answers = checks.flatMap (found answers document) := by
  induction checks with
  | nil => rfl
  | cons check rest inductionHypothesis =>
    rw [runAll, Activity.given_bind, Activity.given_bind, given_runSafely, inductionHypothesis]
    rfl

/-- Whether a name is one of those of some items.  While the items cannot be had, no name counts as
unknown. -/
def isKnownAmong {α : Type} (nameOf : α → String) (listed : Except Failure (List α)) :
    String → Bool :=
  match listed with
  | .ok items => (items.map nameOf).contains
  | .error _ => fun _ => true

theorem unknown_of_all_known (finding : String → Finding) (references : List Reference) :
    unknown finding (fun _ => true) references = [] := by
  simp [unknown]

theorem found_entities (answers : Answers) (document : CheckedDocument) :
    found answers document entities =
      unknown .unknownEntity (isKnownAmong Entity.id answers.states)
        (Reference.entities document.text) := by
  unfold found run unknownEntities
  dsimp only
  -- Without references the states are not asked for, and then nothing is unknown either.
  by_cases none_ : (Reference.entities document.text).isEmpty = true
  · rw [if_pos none_, List.isEmpty_iff.mp none_]
    rfl
  · rw [if_neg none_, Inquiry.given_bind, Inquiry.given_entityIndex]
    unfold Answers.states
    cases answers.list .states with
    | ok listed =>
      have known := funext (EntityTable.isSome_find?_ofList listed.value)
      exact congrArg (unknown .unknownEntity · _) known
    | error cause => exact (unknown_of_all_known _ _).symm

theorem found_services (answers : Answers) (document : CheckedDocument) :
    found answers document .services =
      unknown .unknownService (isKnownAmong Service.fullName answers.services)
        (Reference.services document.text) := by
  unfold found run unknownServices
  dsimp only
  by_cases none_ : (Reference.services document.text).isEmpty = true
  · rw [if_pos none_, List.isEmpty_iff.mp none_]
    rfl
  · rw [if_neg none_, Inquiry.given_bind, Inquiry.given_services]
    cases answers.services with
    | ok listed => rfl
    | error cause => exact (unknown_of_all_known _ _).symm

theorem code_of_include? {tree : FileTree} {directory : Path} {reference : Reference}
    {finding : Finding} (checked : include? tree directory reference = .ok (some finding)) :
    finding.code = "include-not-found" := by
  unfold include? at checked
  dsimp only at checked
  split at checked
  · cases present : tree.hasDirectory (directory.resolve reference.value.toList) with
    | error cause =>
      rw [present] at checked
      cases checked
    | ok isThere =>
      rw [present] at checked
      cases isThere <;> cases checked
      rfl
  · cases present : tree.has (directory.resolve reference.value.toList) with
    | error cause =>
      rw [present] at checked
      cases checked
    | ok isThere =>
      rw [present] at checked
      cases isThere <;> cases checked
      rfl

/-- What is found of some includes is found of one of them. -/
theorem exists_of_mem_missingAmong {tree : FileTree} {directory : Path}
    {references : List Reference} {found : List Diagnostic}
    (checked : missingAmong tree directory references = .ok found) {diagnostic : Diagnostic}
    (member : diagnostic ∈ found) :
    ∃ reference ∈ references, ∃ finding,
      include? tree directory reference = .ok (some finding) ∧
        diagnostic = ⟨reference.range, finding⟩ := by
  induction references generalizing found with
  | nil =>
    cases checked
    cases member
  | cons reference rest inductionHypothesis =>
    rw [missingAmong] at checked
    cases first : include? tree directory reference with
    | error cause =>
      rw [first] at checked
      cases checked
    | ok missing =>
      rw [first] at checked
      cases others : missingAmong tree directory rest with
      | error cause =>
        rw [others] at checked
        cases checked
      | ok later =>
        rw [others] at checked
        cases checked
        rcases List.mem_append.mp member with here | there
        · cases missing with
          | none => cases here
          | some finding =>
            exact ⟨reference, List.mem_cons_self, finding, first, List.mem_singleton.mp here⟩
        · rcases inductionHypothesis others there with ⟨other, referred, rest⟩
          exact ⟨other, List.mem_cons_of_mem _ referred, rest⟩

/-- What is found of the includes of a document is found of one of them, below the directory of the
document. -/
theorem exists_of_mem_missingIncludes {document : CheckedDocument} {found : List Diagnostic}
    (checked : missingIncludes document = .ok found) {diagnostic : Diagnostic}
    (member : diagnostic ∈ found) :
    ∃ uri directory, document.uri = some uri ∧ Uri.directory? uri = .ok (some directory) ∧
      ∃ reference ∈ Reference.includes document.text, ∃ finding,
        include? document.tree directory reference = .ok (some finding) ∧
          diagnostic = ⟨reference.range, finding⟩ := by
  unfold missingIncludes at checked
  split at checked
  next =>
    cases checked
    cases member
  next uri address =>
    split at checked
    next =>
      cases checked
      cases member
    next =>
      cases place : Uri.directory? uri with
      | error cause =>
        rw [place] at checked
        cases checked
      | ok directory =>
        rw [place] at checked
        cases directory with
        | none =>
          cases checked
          cases member
        | some directory =>
          exact ⟨uri, directory, address, place, exists_of_mem_missingAmong checked member⟩

theorem not_namesUnknown_missingIncludes {document : CheckedDocument} {found : List Diagnostic}
    (checked : missingIncludes document = .ok found) :
    ∀ diagnostic ∈ found, diagnostic.namesUnknown = false := by
  intro diagnostic member
  rcases exists_of_mem_missingIncludes checked member with
    ⟨_, _, _, _, reference, _, finding, missing, rfl⟩
  simp [Diagnostic.namesUnknown, code_of_include? missing]

theorem not_namesUnknown_faultyTemplates {text : Text} {found : List Diagnostic}
    (checked : faultyTemplates text = .ok found) :
    ∀ diagnostic ∈ found, diagnostic.namesUnknown = false := by
  unfold faultyTemplates at checked
  split at checked
  · cases checked
    simp [Diagnostic.namesUnknown, Finding.code]
  · cases checked

theorem not_namesUnknown_syntaxErrors {text : Text} {found : List Diagnostic}
    (checked : syntaxErrors text = .ok found) :
    ∀ diagnostic ∈ found, diagnostic.namesUnknown = false := by
  unfold syntaxErrors at checked
  split at checked
  · cases checked
    simp [Diagnostic.namesUnknown, Finding.code]
  · cases checked

/-- A check that asks nothing finds what it comes to by itself. -/
theorem forall_mem_found {answers : Answers} {document : CheckedDocument} {check : Check}
    {outcome : Except Failure (List Diagnostic)} {holds : Diagnostic → Prop}
    (asksNothing : check.run document = Inquiry.ofExcept outcome)
    (all : ∀ found, outcome = .ok found → ∀ diagnostic ∈ found, holds diagnostic) :
    ∀ diagnostic ∈ check.found answers document, holds diagnostic := by
  unfold found
  rw [asksNothing]
  cases outcome with
  | ok found => exact all found rfl
  | error cause => exact nofun

/-- The checks that need no connection warn of no unknown name. -/
theorem not_namesUnknown_found (answers : Answers) (document : CheckedDocument) :
    ∀ diagnostic ∈ [includes, templates, yaml].flatMap (found answers document),
      diagnostic.namesUnknown = false := by
  simp only [List.flatMap_cons, List.flatMap_nil, List.append_nil, List.forall_mem_append]
  refine ⟨?_, ?_, ?_⟩
  · exact forall_mem_found rfl fun _ => not_namesUnknown_missingIncludes
  · exact forall_mem_found rfl fun _ => not_namesUnknown_faultyTemplates
  · exact forall_mem_found rfl fun _ => not_namesUnknown_syntaxErrors

/-! ## Names that are unknown -/

section

variable {finding : String → Finding} {isKnown : String → Bool} {references : List Reference}

theorem map_range_unknown_sublist (finding : String → Finding) (isKnown : String → Bool)
    (references : List Reference) :
    ((unknown finding isKnown references).map Diagnostic.range).Sublist
      (references.map Reference.range) := by
  rw [unknown, List.map_map]
  exact List.filter_sublist.map _

theorem exists_of_mem_unknown {diagnostic : Diagnostic}
    (member : diagnostic ∈ unknown finding isKnown references) :
    ∃ reference ∈ references, isKnown reference.value = false ∧
      diagnostic = ⟨reference.range, finding reference.value⟩ := by
  rcases List.mem_map.mp member with ⟨reference, unknown_, same⟩
  rcases List.mem_filter.mp unknown_ with ⟨referred, notKnown⟩
  exact ⟨reference, referred, by simpa using notKnown, same.symm⟩

theorem count_unknown_eq_zero (finding : String → Finding) (isKnown : String → Bool)
    (references : List Reference) {diagnostic : Diagnostic}
    (differs : ∀ name, finding name ≠ diagnostic.finding) :
    (unknown finding isKnown references).count diagnostic = 0 := by
  refine List.count_eq_zero.mpr fun member => ?_
  rcases exists_of_mem_unknown member with ⟨reference, _, _, rfl⟩
  exact differs reference.value rfl

theorem count_unknown (injective : Function.Injective finding) {text : Text} {reference : Reference}
    (member : reference ∈ references)
    (apart : (references.map Reference.range).Pairwise (Range.Apart text))
    (covers : ∃ offset, reference.range.Covers text offset) :
    (unknown finding isKnown references).count ⟨reference.range, finding reference.value⟩ =
      if isKnown reference.value then 0 else 1 := by
  split
  next known =>
    refine List.count_eq_zero.mpr fun found => ?_
    rcases List.mem_map.mp found with ⟨other, unknown_, same⟩
    have value : other.value = reference.value := injective (congrArg Diagnostic.finding same)
    simp [value, known] at unknown_
  next notKnown =>
    have found : ⟨reference.range, finding reference.value⟩ ∈ unknown finding isKnown references :=
      List.mem_map.mpr ⟨reference, by simp [member, notKnown], rfl⟩
    have some_ := List.one_le_count_iff.mpr found
    -- Two equal warnings would both cover the first character of the name.
    rcases covers with ⟨offset, here⟩
    have most : (unknown finding isKnown references).count
        ⟨reference.range, finding reference.value⟩ ≤ 1 := calc
      _ ≤ (unknown finding isKnown references).countP fun diagnostic =>
            diagnostic.range.Covers text offset := by
          refine List.countP_mono_left fun diagnostic _ same => ?_
          rw [eq_of_beq same]
          exact decide_eq_true here
      _ = ((unknown finding isKnown references).map Diagnostic.range).countP fun range =>
            range.Covers text offset := by
          rw [List.countP_map]
          rfl
      _ ≤ 1 := Range.Apart.countP_covers_le_one
          (apart.sublist (map_range_unknown_sublist finding isKnown references)) offset
    omega

end

theorem given_validate (answers : Answers) (isConnected : Bool) (document : CheckedDocument) :
    (validate isConnected document).given answers =
      (if isConnected then
        found answers document entities ++ found answers document .services else []) ++
      [includes, templates, yaml].flatMap (found answers document) := by
  rw [validate, given_runAll, all, List.flatMap_append]
  cases isConnected <;> simp

/-- The warnings of unknown names have the ranges of references. -/
theorem map_range_found_sublist (answers : Answers) (document : CheckedDocument) :
    ((found answers document entities ++ found answers document .services).map
        Diagnostic.range).Sublist
      ((Reference.entities document.text ++ Reference.services document.text).map
        Reference.range) := by
  rw [found_entities, found_services, List.map_append, List.map_append]
  exact (map_range_unknown_sublist _ _ _).append (map_range_unknown_sublist _ _ _)

/-- The checks of references are the ones that warn of unknown names. -/
theorem mem_unknown_of_mem {answers : Answers} {isConnected : Bool} {document : CheckedDocument}
    {diagnostic : Diagnostic} (member : diagnostic ∈ (validate isConnected document).given answers)
    (names : diagnostic.namesUnknown = true) :
    diagnostic ∈ unknown .unknownEntity (isKnownAmong Entity.id answers.states)
        (Reference.entities document.text) ∨
      diagnostic ∈ unknown .unknownService (isKnownAmong Service.fullName answers.services)
        (Reference.services document.text) := by
  rw [given_validate] at member
  rcases List.mem_append.mp member with live | other
  · cases isConnected with
    | false => cases live
    | true =>
      rw [if_pos rfl, found_entities, found_services] at live
      exact List.mem_append.mp live
  · exact absurd (not_namesUnknown_found answers document diagnostic other) (by simp [names])

/-- The findings of a kind are about references to names that are not known. -/
def WarnsOf (finding : String → Finding) (isKnown : String → Bool)
    (references : Text → List Reference) (answers : Answers) : Prop :=
  ∀ {isConnected document diagnostic name},
    diagnostic ∈ (validate isConnected document).given answers →
      diagnostic.finding = finding name →
        ∃ reference ∈ references document.text, isKnown reference.value = false ∧
          diagnostic.range = reference.range ∧ name = reference.value

theorem warnsOf_unknownEntity (answers : Answers) :
    WarnsOf .unknownEntity (isKnownAmong Entity.id answers.states) Reference.entities answers := by
  intro isConnected document diagnostic name member names
  have code : diagnostic.namesUnknown = true := by
    simp [Diagnostic.namesUnknown, names, Finding.code]
  rcases mem_unknown_of_mem member code with entity | service
  · rcases exists_of_mem_unknown entity with ⟨reference, referred, notKnown, rfl⟩
    exact ⟨reference, referred, notKnown, rfl, (Finding.unknownEntity.inj names).symm⟩
  · rcases exists_of_mem_unknown service with ⟨reference, _, _, rfl⟩
    cases names

theorem warnsOf_unknownService (answers : Answers) :
    WarnsOf .unknownService (isKnownAmong Service.fullName answers.services) Reference.services
      answers := by
  intro isConnected document diagnostic name member names
  have code : diagnostic.namesUnknown = true := by
    simp [Diagnostic.namesUnknown, names, Finding.code]
  rcases mem_unknown_of_mem member code with entity | service
  · rcases exists_of_mem_unknown entity with ⟨reference, _, _, rfl⟩
    cases names
  · rcases exists_of_mem_unknown service with ⟨reference, referred, notKnown, rfl⟩
    exact ⟨reference, referred, notKnown, rfl, (Finding.unknownService.inj names).symm⟩

/-- A warning of an unknown name is about a reference to that name. -/
theorem exists_reference_of_mem (answers : Answers) (isConnected : Bool)
    (document : CheckedDocument) {diagnostic : Diagnostic} {name : String}
    (member : diagnostic ∈ (validate isConnected document).given answers)
    (names : diagnostic.finding = .unknownEntity name ∨
      diagnostic.finding = .unknownService name) :
    ∃ reference ∈ Reference.entities document.text ++ Reference.services document.text,
      diagnostic.range = reference.range ∧ name = reference.value := by
  rcases names with entity | service
  · rcases warnsOf_unknownEntity answers member entity with ⟨reference, referred, _, same⟩
    exact ⟨reference, List.mem_append_left _ referred, same⟩
  · rcases warnsOf_unknownService answers member service with ⟨reference, referred, _, same⟩
    exact ⟨reference, List.mem_append_right _ referred, same⟩

/-! ## The lists that are asked for -/

/-- The lists that a check asks for. -/
def Asks : Check → Registry → Prop
  | entities, registry => registry = .states
  | services, registry => registry = .services
  | _, _ => False

theorem asksOnce_run (document : CheckedDocument) (check : Check) :
    (check.run document).run.AsksOnce check.Asks := by
  cases check with
  | entities =>
    unfold run unknownEntities
    dsimp only
    split
    · trivial
    · rw [Inquiry.run_entityIndex_bind]
      refine ⟨rfl, fun answer => ?_⟩
      cases answer with
      | ok states => exact fun index => trivial
      | error cause => trivial
  | services =>
    unfold run unknownServices
    dsimp only
    split
    · trivial
    · refine ⟨rfl, fun answer => ?_⟩
      cases answer <;> trivial
  | includes | templates | yaml => trivial

theorem asksOnly_run (document : CheckedDocument) (check : Check) :
    (check.run document).run.AsksOnly fun registry => registry = .states ∨ registry = .services := by
  refine (asksOnce_run document check).asksOnly.mono fun registry asks => ?_
  cases check with
  | entities => exact Or.inl asks
  | services => exact Or.inr asks
  | includes | templates | yaml => exact asks.elim

theorem asksOnly_runAll (document : CheckedDocument) (checks : List Check) :
    (runAll document checks).AsksOnly fun registry => registry = .states ∨ registry = .services := by
  induction checks with
  | nil => trivial
  | cons check rest inductionHypothesis =>
    have safely : (check.runSafely document).AsksOnly fun registry =>
        registry = .states ∨ registry = .services := by
      refine (asksOnly_run document check).bind fun outcome => ?_
      cases outcome <;> trivial
    refine safely.bind fun found => ?_
    exact inductionHypothesis.bind fun others => trivial

/-! ## All findings -/

theorem countP_namesUnknown_le_one (answers : Answers) (isConnected : Bool)
    (document : CheckedDocument) (offset : Nat) :
    (((validate isConnected document).given answers).countP fun diagnostic =>
      diagnostic.namesUnknown && decide (diagnostic.range.Covers document.text offset)) ≤ 1 := by
  rw [given_validate, List.countP_append]
  have others : ([includes, templates, yaml].flatMap (found answers document)).countP
      (fun diagnostic => diagnostic.namesUnknown &&
        decide (diagnostic.range.Covers document.text offset)) = 0 := by
    refine List.countP_eq_zero.mpr fun diagnostic member => ?_
    simp [not_namesUnknown_found answers document diagnostic member]
  rw [others, Nat.add_zero]
  cases isConnected with
  | false => exact Nat.zero_le 1
  | true =>
    have apart := List.pairwise_map.mpr (Reference.pairwise_entities_services document.text)
    have most := Range.Apart.countP_covers_le_one
      (apart.sublist (map_range_found_sublist answers document)) offset
    rw [List.countP_map] at most
    refine Nat.le_trans (List.countP_mono_left fun diagnostic _ both => ?_) most
    exact (Bool.and_eq_true_iff.mp both).2

theorem count_given_validate (answers : Answers) {isConnected : Bool}
    (connected : isConnected = true) (document : CheckedDocument) {diagnostic : Diagnostic}
    (names : diagnostic.namesUnknown = true) :
    ((validate isConnected document).given answers).count diagnostic =
      (found answers document entities).count diagnostic +
        (found answers document .services).count diagnostic := by
  have none_ : ([includes, templates, yaml].flatMap (found answers document)).count diagnostic = 0 := by
    refine List.count_eq_zero.mpr fun member => ?_
    have other := not_namesUnknown_found answers document diagnostic member
    simp [names] at other
  rw [given_validate, if_pos connected, List.count_append, List.count_append, none_, Nat.add_zero]

theorem count_unknownEntity (answers : Answers) {isConnected : Bool}
    (connected : isConnected = true) (document : CheckedDocument) {states : List Entity}
    (listed : answers.states = .ok states) {reference : Reference}
    (member : reference ∈ Reference.entities document.text) :
    ((validate isConnected document).given answers).count
        ⟨reference.range, .unknownEntity reference.value⟩ =
      if (states.map Entity.id).contains reference.value then 0 else 1 := by
  have apart := List.pairwise_map.mpr (Reference.pairwise_entities_services document.text)
  rw [List.map_append] at apart
  have covers := Reference.exists_covers document.text reference (List.mem_append_left _ member)
  rw [count_given_validate answers connected document rfl, found_entities, found_services,
    count_unknown_eq_zero .unknownService _ _ fun _ => Finding.noConfusion, Nat.add_zero, listed]
  exact count_unknown (fun _ _ => Finding.unknownEntity.inj) member
    (List.pairwise_append.mp apart).1 covers

theorem count_unknownService (answers : Answers) {isConnected : Bool}
    (connected : isConnected = true) (document : CheckedDocument) {services : List Service}
    (listed : answers.services = .ok services) {reference : Reference}
    (member : reference ∈ Reference.services document.text) :
    ((validate isConnected document).given answers).count
        ⟨reference.range, .unknownService reference.value⟩ =
      if (services.map Service.fullName).contains reference.value then 0 else 1 := by
  have apart := List.pairwise_map.mpr (Reference.pairwise_entities_services document.text)
  rw [List.map_append] at apart
  have covers := Reference.exists_covers document.text reference (List.mem_append_right _ member)
  rw [count_given_validate answers connected document rfl, found_entities, found_services,
    count_unknown_eq_zero .unknownEntity _ _ fun _ => Finding.noConfusion, Nat.zero_add, listed]
  exact count_unknown (fun _ _ => Finding.unknownService.inj) member
    (List.pairwise_append.mp apart).2.1 covers

/-- Whatever states and services there are, no character of a document is warned of twice, and a
reference to an entity or a service is warned of once if its name is unknown, and else not at all.
This is what a check comes to that finds these lists in the store, whatever has been done on the
store before. -/
theorem unknown_names_are_warned_of_once {ι : Type} [DecidableEq ι] (access : Option Access)
    (timeToLive now : Moment) (calls : List (Lookup.Call ι)) (document : CheckedDocument)
    (answers : Answers) :
    let text := document.text
    let found := (validate access.isSome document).given answers
    let work := (Work.new access timeToLive).after
      (calls.map (Lookup.Call.event (Lookup.activity access.isSome)))
    (Reference.entities text ++ Reference.services text).Pairwise (fun first second =>
        Range.Apart text first.range second.range) ∧
      (∀ offset, (found.countP fun diagnostic =>
        diagnostic.namesUnknown && decide (diagnostic.range.Covers text offset)) ≤ 1) ∧
      (access.isSome = true → ∀ states : List Entity,
        answers.states = .ok states →
          ∀ reference ∈ Reference.entities text,
            found.count ⟨reference.range, .unknownEntity reference.value⟩ =
              if (states.map Entity.id).contains reference.value then 0 else 1) ∧
      (access.isSome = true → ∀ services : List Service,
        answers.services = .ok services →
          ∀ reference ∈ Reference.services text,
            found.count ⟨reference.range, .unknownService reference.value⟩ =
              if (services.map Service.fullName).contains reference.value then 0 else 1) ∧
      (work.store.Offers now answers (fun registry => registry = .states ∨ registry = .services) →
        ∃ later notices, (validate access.isSome document).advance now work.store =
          (.finished found, later, notices)) := by
  intro text found work
  refine ⟨Reference.pairwise_entities_services text, ?_, ?_, ?_, ?_⟩
  · exact countP_namesUnknown_le_one answers access.isSome document
  · intro connected states listed reference member
    exact count_unknownEntity answers connected document listed member
  · intro connected services listed reference member
    exact count_unknownService answers connected document listed member
  · intro offers
    have indexes : ∀ event ∈ calls.map (Lookup.Call.event (Lookup.activity access.isSome)),
        event.Indexes := by
      intro event member
      rcases List.mem_map.mp member with ⟨call, _, rfl⟩
      exact call.indexes_event access.isSome
    rcases Work.mirrors_after access timeToLive _ indexes with ⟨archive, mirrors⟩
    exact Activity.advance_of_offers (asksOnly_runAll document _) (indexes_runAll document _)
      mirrors.keeps offers

/-- A document with a service and an entity. -/
def twoNames : CheckedDocument :=
  ⟨"service: light.on\nentity_id: light.attic".toList, none, .ofPaths [] []⟩

/-- Neither states nor services, both fetched at the first second. -/
def nothingKnown : Answers where
  list registry := .ok ⟨[], 1, if registry = .states then 0 else 1⟩
  read _ := .ok .null

/-- The document is checked, and both lists come in empty. -/
def checkedBefore : List (Lookup.Call Nat) :=
  let nothing : Reply := .ok ⟨200, some "application/json", "[]"⟩
  [.asked 1 0 (.findings twoNames), .replied 1 1 nothing, .replied 1 1 nothing]

theorem two_names_are_warned_of :
    let access : Access := ⟨"http://home:8123/api", "token", 10⟩
    let found := (validate true twoNames).given nothingKnown
    let work := (Work.new (some access) 60).after
      (checkedBefore.map (Lookup.Call.event (Lookup.activity true)))
    found.count ⟨⟨⟨1, 11⟩, ⟨1, 22⟩⟩, .unknownEntity "light.attic"⟩ = 1 ∧
      found.count ⟨⟨⟨0, 9⟩, ⟨0, 17⟩⟩, .unknownService "light.on"⟩ = 1 ∧
        ∃ later notices, (validate true twoNames).advance 2 work.store =
          (.finished found, later, notices) := by
  intro access found work
  have fresh (registry : Registry) (one : registry = .states ∨ registry = .services) :
      (work.store.lists.fresh? 2 registry).map (fun entry =>
        (entry.value.isEmpty, entry.fetchedAt, entry.serial)) =
          some (true, 1, if registry = .states then 0 else 1) := by
    rcases one with rfl | rfl
    · decide +kernel
    · decide +kernel
  have offers : work.store.Offers 2 nothingKnown
      fun registry => registry = .states ∨ registry = .services := by
    intro registry one
    rcases Option.map_eq_some_iff.mp (fresh registry one) with ⟨⟨items, time, serial⟩, found, same⟩
    simp only [Prod.mk.injEq, List.isEmpty_iff] at same
    rcases same with ⟨none_, sameTime, sameSerial⟩
    rw [none_, sameTime, sameSerial] at found
    exact ⟨_, found, rfl⟩
  rcases unknown_names_are_warned_of_once (some access) 60 2 checkedBefore twoNames nothingKnown
    with ⟨_, _, entities, services, ends⟩
  refine ⟨?_, ?_, ends offers⟩
  · exact entities rfl [] rfl ⟨.entity, "light.attic", ⟨⟨1, 11⟩, ⟨1, 22⟩⟩, false⟩ (by decide +kernel)
  · exact services rfl [] rfl ⟨.service, "light.on", ⟨⟨0, 9⟩, ⟨0, 17⟩⟩, false⟩ (by decide +kernel)

end Check

end HomeConfig
