import HomeConfig.Proofs.Completion.Resolution
import HomeConfig.Proofs.Hover.Target

/-!
# Hovers and warnings

A name that is not known is warned of when the document is checked, and whoever points at it is
told the same.  The two go different ways.  The check looks for references and asks whether their
names are listed; the pointer takes the token where it rests and looks it up.  What is shown there
agrees with the warnings (`Hover.Agrees`) as long as the token is looked up in the list that the
reference belongs to.

For references to entities this fails only beside a key for services on the same line, and for
references to services only without one.  A reference to a service always has a key of its own in
front of it, in some spelling; but the pointer knows the lower-case spelling alone.
-/

namespace HomeConfig

/-! ## Warnings at a reference -/

namespace Reference

/-- The value of a reference can be read where its range is. -/
theorem value_eq_of_mem {text : Text} {reference : Reference}
    (member : reference ∈ entities text ++ services text) :
    reference.value = String.ofList (reference.range.slice text) := by
  rcases exists_excerpt_of_mem text reference member with ⟨excerpt, front, value, range, stands, _⟩
  rw [value, range, stands.slice_range]

end Reference

namespace Check

theorem isKnownAmong_eq_false_iff {α : Type} (nameOf : α → String) (items : List α)
    (name : String) :
    isKnownAmong nameOf (.ok items) name = false ↔ ∀ item ∈ items, nameOf item ≠ name := by
  simp [isKnownAmong]

/-- At a reference there is a warning if its name is not known. -/
theorem WarnsOf.exists_iff {finding : String → Finding} {isKnown : String → Bool}
    {references : Text → List Reference} {answers : Answers} {isConnected : Bool}
    {document : CheckedDocument} {reference : Reference} {code : String}
    (warns : WarnsOf finding isKnown references answers)
    (coded : ∀ found : Finding, found.code = code ↔ ∃ name, found = finding name)
    (among : ∀ other ∈ references document.text,
      other ∈ Reference.entities document.text ++ Reference.services document.text)
    (member : reference ∈ references document.text)
    (counted : ((validate isConnected document).given answers).count
      ⟨reference.range, finding reference.value⟩ = if isKnown reference.value then 0 else 1) :
    (∃ diagnostic ∈ (validate isConnected document).given answers,
      diagnostic.range = reference.range ∧ diagnostic.finding.code = code) ↔
        isKnown reference.value = false := by
  constructor
  · rintro ⟨diagnostic, found, range, isCode⟩
    rcases (coded _).mp isCode with ⟨name, names⟩
    rcases warns found names with ⟨other, referred, notKnown, same, _⟩
    have value : other.value = reference.value := by
      rw [Reference.value_eq_of_mem (among other referred),
        Reference.value_eq_of_mem (among reference member), ← same, range]
    rw [← value, notKnown]
  · intro notKnown
    rw [notKnown] at counted
    have found := List.one_le_count_iff.mp (Nat.le_of_eq counted.symm)
    exact ⟨_, found, rfl, (coded _).mpr ⟨reference.value, rfl⟩⟩

theorem exists_unknownEntity_iff {answers : Answers} {document : CheckedDocument}
    {states : List Entity} (listed : answers.states = .ok states) {reference : Reference}
    (member : reference ∈ Reference.entities document.text) :
    (∃ diagnostic ∈ (validate true document).given answers,
      diagnostic.range = reference.range ∧ diagnostic.finding.code = "unknown-entity") ↔
        ∀ entity ∈ states, entity.id ≠ reference.value := by
  rw [← isKnownAmong_eq_false_iff Entity.id]
  have warns : WarnsOf .unknownEntity (isKnownAmong Entity.id (.ok states)) Reference.entities
      answers := by
    rw [← listed]
    exact warnsOf_unknownEntity answers
  refine warns.exists_iff (fun found => ?_) (fun _ => List.mem_append_left _) member ?_
  · cases found <;> simp [Finding.code]
  · exact count_unknownEntity answers rfl document listed member

theorem exists_unknownService_iff {answers : Answers} {document : CheckedDocument}
    {services : List Service} (listed : answers.services = .ok services) {reference : Reference}
    (member : reference ∈ Reference.services document.text) :
    (∃ diagnostic ∈ (validate true document).given answers,
      diagnostic.range = reference.range ∧ diagnostic.finding.code = "unknown-service") ↔
        ∀ service ∈ services, service.fullName ≠ reference.value := by
  rw [← isKnownAmong_eq_false_iff Service.fullName]
  have warns : WarnsOf .unknownService (isKnownAmong Service.fullName (.ok services))
      Reference.services answers := by
    rw [← listed]
    exact warnsOf_unknownService answers
  refine warns.exists_iff (fun found => ?_) (fun _ => List.mem_append_right _) member ?_
  · cases found <;> simp [Finding.code]
  · exact count_unknownService answers rfl document listed member

end Check

/-! ## What is shown -/

theorem head?_toList_append {first : String} {c : Char} (starts : first.toList.head? = some c)
    (rest : String) : (first ++ rest).toList.head? = some c := by
  rw [String.toList_append, List.head?_append, starts, Option.some_or]

/-- Lines under a title are no notice, which starts with a star. -/
theorem titled_ne_of_star {notice : String} (star : notice.toList.head? = some '*')
    (title : String) (rest : List String) : unlines (("## " ++ title) :: rest) ≠ notice := by
  rintro rfl
  have sign : (unlines (("## " ++ title) :: rest)).toList.head? = some '#' := by
    cases rest with
    | nil => simp [unlines, String.toList_append]
    | cons second rest => simp [unlines, String.toList_append]
  rw [sign] at star
  exact absurd star (by decide)

namespace Hover

/-- What is known is shown under a title, which a notice does not have. -/
theorem entityText_ne_unknownEntityText (entity : Entity) (id : String) :
    entityText entity ≠ unknownEntityText id := by
  have star : "**Unknown entity:** ".toList.head? = some '*' := by decide
  exact titled_ne_of_star (head?_toList_append (head?_toList_append star _) _) _ _

theorem serviceText_ne_unknownServiceText (service : Service) (fullName : String) :
    serviceText service ≠ unknownServiceText fullName := by
  have star : "**Unknown service:** ".toList.head? = some '*' := by decide
  exact titled_ne_of_star (head?_toList_append star _) _ _

/-- What is shown for a reference agrees with what is found: it is about the range of the reference,
and it is the notice if there is a finding with the code at that range.  Otherwise something is
shown that is known. -/
def Agrees (hover : Option Hover) (found : List Diagnostic) (reference : Reference)
    (code notice : String) (isOfKnown : String → Prop) : Prop :=
  ∃ shown, hover = some ⟨shown, some reference.range⟩ ∧
    (shown = notice ↔ ∃ diagnostic ∈ found,
      diagnostic.range = reference.range ∧ diagnostic.finding.code = code) ∧
    (shown = notice ∨ isOfKnown shown)

/-- Where something is found, the notice is shown. -/
theorem Agrees.eq_notice {hover : Option Hover} {found : List Diagnostic} {reference : Reference}
    {code notice : String} {isOfKnown : String → Prop}
    (agrees : Agrees hover found reference code notice isOfKnown)
    (warned : ∃ diagnostic ∈ found,
      diagnostic.range = reference.range ∧ diagnostic.finding.code = code) :
    hover = some ⟨notice, some reference.range⟩ := by
  rcases agrees with ⟨shown, isShown, isNotice, _⟩
  rw [isShown, isNotice.mpr warned]

/-- What is looked up and shown agrees with findings that are made if nothing is there. -/
theorem agrees_of_lookup {α : Type} {item? : Option α} {textOf : α → String}
    {found : List Diagnostic} {reference : Reference} {code notice : String}
    {isOfKnown : String → Prop} (different : ∀ item, textOf item ≠ notice)
    (missing : (∃ diagnostic ∈ found,
      diagnostic.range = reference.range ∧ diagnostic.finding.code = code) ↔ item? = none)
    (known : ∀ item, item? = some item → isOfKnown (textOf item)) :
    Agrees (some ⟨(item?.map textOf).getD notice, some reference.range⟩) found reference code notice
      isOfKnown := by
  refine ⟨_, rfl, ?_, ?_⟩
  · rw [missing]
    cases item? with
    | none => simp
    | some item => simp [different item]
  · cases item? with
    | none => exact Or.inl rfl
    | some item => exact Or.inr (known item rfl)

/-! ### Looking names up -/

theorem given_ofTarget_entity {answers : Answers} {states : List Entity}
    (listed : answers.states = .ok states) (id : String) (range : Range) :
    (ofTarget (.entity id range)).given answers =
      some ⟨((states.reverse.find? fun state => state.id = id).map entityText).getD
        (unknownEntityText id), some range⟩ := by
  rw [ofTarget, Activity.given_bind, Inquiry.given_entity, listed]
  cases found : states.reverse.find? fun state => state.id = id with
  | none => simp only [Except.map, found, Option.map_none, Option.getD_none]; rfl
  | some entity => simp only [Except.map, found, Option.map_some, Option.getD_some]; rfl

theorem given_ofTarget_service {answers : Answers} {services : List Service}
    (listed : answers.services = .ok services) (fullName : String) (range : Range) :
    (ofTarget (.service fullName range)).given answers =
      some ⟨((services.find? fun found => found.fullName = fullName).map serviceText).getD
        (unknownServiceText fullName), some range⟩ := by
  rw [ofTarget, Activity.given_bind, Inquiry.given_service, listed]
  cases found : services.find? fun found => found.fullName = fullName with
  | none => simp only [Except.map, found, Option.map_none, Option.getD_none]; rfl
  | some service => simp only [Except.map, found, Option.map_some, Option.getD_some]; rfl

/-- What is looked up for a name: one list. -/
def Asks (registry : Registry) : Prop :=
  registry = .states ∨ registry = .services

theorem asksOnly_ofTarget_entity (id : String) (range : Range) :
    (ofTarget (.entity id range)).AsksOnly Asks := by
  refine ((Inquiry.asksOnce_entity id).asksOnly.mono fun _ => Or.inl).bind fun outcome => ?_
  match outcome with
  | .ok (some entity) => trivial
  | .ok none => trivial
  | .error cause => trivial

theorem asksOnly_ofTarget_service (fullName : String) (range : Range) :
    (ofTarget (.service fullName range)).AsksOnly Asks := by
  have asks : (Inquiry.service fullName).run.AsksOnly Asks :=
    ⟨Or.inr rfl, fun answer => by cases answer <;> trivial⟩
  refine asks.bind fun outcome => ?_
  match outcome with
  | .ok (some service) => trivial
  | .ok none => trivial
  | .error cause => trivial

theorem indexes_ofTarget_entity (id : String) (range : Range) :
    (ofTarget (.entity id range)).Indexes fun _ _ => False := by
  refine (Inquiry.indexes_entity id).bind fun outcome => ?_
  match outcome with
  | .ok (some entity) => trivial
  | .ok none => trivial
  | .error cause => trivial

theorem indexes_ofTarget_service (fullName : String) (range : Range) :
    (ofTarget (.service fullName range)).Indexes fun _ _ => False := by
  have indexes : (Inquiry.service fullName).run.Indexes fun _ _ => False := fun answer => by
    cases answer <;> trivial
  refine indexes.bind fun outcome => ?_
  match outcome with
  | .ok (some service) => trivial
  | .ok none => trivial
  | .error cause => trivial

/-- After questions have been asked on a store, what asks for its fresh lists ends at once. -/
theorem advance_of_offers_after {ι α : Type} [DecidableEq ι] {access : Option Access}
    {timeToLive now : Moment} {calls : List (Lookup.Call ι)} {answers : Answers}
    {activity : Activity α} (asks : activity.AsksOnly Asks)
    (indexes : activity.Indexes fun _ _ => False)
    (offers : ((Work.new access timeToLive).after (calls.map
      (Lookup.Call.event (Lookup.activity access.isSome)))).store.Offers now answers Asks) :
    ∃ later notices, activity.advance now ((Work.new access timeToLive).after (calls.map
        (Lookup.Call.event (Lookup.activity access.isSome)))).store =
      (.finished (activity.given answers), later, notices) := by
  have events : ∀ event ∈ calls.map (Lookup.Call.event (Lookup.activity access.isSome)),
      event.Indexes := by
    intro event member
    rcases List.mem_map.mp member with ⟨call, _, rfl⟩
    exact call.indexes_event access.isSome
  rcases Work.mirrors_after access timeToLive _ events with ⟨archive, mirrors⟩
  exact Activity.advance_of_offers asks (indexes.mono fun _ _ => False.elim) mirrors.keeps offers

/-- With a connection and the states listed, whoever points at a reference to an entity is shown
something about that entity, with the range of the reference: a notice that it is unknown if the
check of the document warns of it there, and else the entity.  This holds at every place that the
reference touches, in a text of basic characters, if no dot follows the reference and no key for
services stands on its line.  If the lists are fresh on the store, both the hover and the findings
are there at once. -/
theorem entity_hovers_agree_with_warnings {ι : Type} [DecidableEq ι] (access : Option Access)
    (timeToLive now : Moment) (calls : List (Lookup.Call ι)) (document : CheckedDocument)
    (answers : Answers) (connected : access.isSome = true) {states : List Entity}
    (listed : answers.states = .ok states) (basic : ∀ c ∈ document.text, c.toNat < 0x80)
    {reference : Reference} (member : reference ∈ Reference.entities document.text)
    (noDot : ¬ Reference.DotFollows document.text reference.range)
    (noKey : ¬ HoverTarget.HasServiceKey (Text.lineAt document.text reference.range.start.line))
    {position : Position} (touches : reference.range.Touches position) :
    let hover := (find access.isSome document.text position).given answers
    let found := (validate access.isSome document).given answers
    let work := (Work.new access timeToLive).after
      (calls.map (Lookup.Call.event (Lookup.activity access.isSome)))
    Agrees hover found reference "unknown-entity" (unknownEntityText reference.value)
        (fun shown => ∃ entity ∈ states,
          entity.id = reference.value ∧ shown = entityText entity) ∧
      (work.store.Offers now answers Asks →
        (∃ later notices, (find access.isSome document.text position).advance now work.store =
          (.finished hover, later, notices)) ∧
        ∃ later notices, (validate access.isSome document).advance now work.store =
          (.finished found, later, notices)) := by
  intro hover found work
  have target : find access.isSome document.text position =
      ofTarget (.entity reference.value reference.range) := by
    rw [find, if_pos connected,
      HoverTarget.find_of_mem basic (List.mem_append_left _ member) noDot touches, if_neg noKey]
  refine ⟨?_, fun offers => ⟨?_, ?_⟩⟩
  · dsimp only [hover, found]
    rw [target, given_ofTarget_entity listed, connected]
    refine agrees_of_lookup (fun entity => entityText_ne_unknownEntityText entity _) ?_ ?_
    · rw [Check.exists_unknownEntity_iff listed member]
      simp
    · intro entity last
      have isLast := List.find?_some last
      exact ⟨entity, List.mem_reverse.mp (List.mem_of_find?_eq_some last), by simpa using isLast, rfl⟩
  · dsimp only [hover]
    rw [target]
    exact advance_of_offers_after (asksOnly_ofTarget_entity _ _) (indexes_ofTarget_entity _ _) offers
  · exact advance_of_offers_after (Check.asksOnly_runAll document _)
      (Check.indexes_runAll document _) offers

/-- A store after a document has been checked for which neither states nor services came in. -/
def servedNothing : Store :=
  let access : Access := ⟨"http://home:8123/api", "token", 10⟩
  ((Work.new (some access) 60).after
    (Check.checkedBefore.map (Lookup.Call.event (Lookup.activity true)))).store

theorem servedNothing_offers : servedNothing.Offers 2 (servedNothing.answers 2) Asks := by
  refine Store.offers_answers fun registry asks => ?_
  rcases asks with rfl | rfl
  · decide +kernel
  · decide +kernel

theorem twoNames_basic : ∀ c ∈ Check.twoNames.text, c.toNat < 0x80 :=
  Text.basic_of_all (by decide)

theorem attic_is_shown_as_it_is_warned_of :
    let attic : Range := ⟨⟨1, 11⟩, ⟨1, 22⟩⟩
    let answers := servedNothing.answers 2
    let hover : Option Hover := some ⟨unknownEntityText "light.attic", some attic⟩
    (∃ diagnostic ∈ (validate true Check.twoNames).given answers,
        diagnostic.range = attic ∧ diagnostic.finding.code = "unknown-entity") ∧
      (find true Check.twoNames.text ⟨1, 22⟩).given answers = hover ∧
      ∃ later notices, (find true Check.twoNames.text ⟨1, 22⟩).advance 2 servedNothing =
        (.finished hover, later, notices) := by
  intro attic answers hover
  have warned : ((validate true Check.twoNames).given answers).any (fun diagnostic =>
      diagnostic.range = attic ∧ diagnostic.finding.code = "unknown-entity") = true := by
    decide +kernel
  rcases List.any_eq_true.mp warned with ⟨diagnostic, found, isWarning⟩
  have warning := of_decide_eq_true isWarning
  have member : ⟨.entity, "light.attic", attic, false⟩ ∈ Reference.entities Check.twoNames.text := by
    decide +kernel
  have noDot : ¬ Reference.DotFollows Check.twoNames.text attic := by decide
  have noKey : ¬ HoverTarget.HasServiceKey (Text.lineAt Check.twoNames.text 1) := by decide +kernel
  have touches : attic.Touches ⟨1, 22⟩ := by decide
  have isListed : answers.states.toOption.isSome = true := by decide +kernel
  cases listed : answers.states with
  | error cause =>
    rw [listed] at isListed
    cases isListed
  | ok states =>
    rcases entity_hovers_agree_with_warnings (some _) 60 2 Check.checkedBefore Check.twoNames answers
      rfl listed twoNames_basic member noDot noKey touches with
      ⟨agrees, runs⟩
    rcases runs servedNothing_offers with ⟨ends, _⟩
    have same : (find true Check.twoNames.text ⟨1, 22⟩).given answers = hover :=
      agrees.eq_notice ⟨diagnostic, found, warning⟩
    refine ⟨⟨diagnostic, found, warning⟩, same, ?_⟩
    rw [← same]
    exact ends

end Hover

end HomeConfig
