import HomeConfig.Proofs.Hover.Agreement

/-!
# Keys in another spelling

A reference to a service stands behind one of two keys, and the key may be written in any case.
The pointer takes the name for a service only if such a key stands on the line in lower case,
whichever name it belongs to.

So a reference whose own key is in lower case is shown as a service, in agreement with the
warnings.  A reference behind a key in another spelling is shown as an entity, unless another key on
its line comes to help.
-/

namespace HomeConfig

namespace HoverTarget

open Recogniser Reference

/-- A key in lower case in front of a place, on the line of the place. -/
theorem hasServiceKey_of_front {key : String} (isKey : key ∈ serviceKeys) {before gap : Text}
    (mayStart : Text.wordMayStart before.getLast? = true) (plain : '\n' ∉ gap) (rest : Text) :
    HasServiceKey (Text.lineAt (before ++ key.toList ++ ':' :: gap ++ rest)
      (Position.behind (before ++ key.toList ++ ':' :: gap)).line) := by
  have listed : ∃ literal ∈ ["service:", "action:"], literal.toList = key.toList ++ [':'] := by
    rcases (by simpa [serviceKeys] using isKey : key = "service" ∨ key = "action") with rfl | rfl
    · exact ⟨"service:", by simp, by decide⟩
    · exact ⟨"action:", by simp, by decide⟩
  rcases listed with ⟨literal, isLiteral, shape⟩
  have plainKey : '\n' ∉ key.toList := by
    rcases (by simpa [serviceKeys] using isKey : key = "service" ∨ key = "action") with rfl | rfl
    · decide
    · decide
  have plainPart : '\n' ∉ key.toList ++ ':' :: gap := by simp [plainKey, plain]
  have starts : Text.wordMayStart before.lastLine.getLast? = true := by
    rcases Text.exists_append_lastLine before with ⟨ended, whole, _⟩
    cases last : before.lastLine with
    | nil => rfl
    | cons c line =>
      rw [← last]
      rw [whole, List.getLast?_append_of_ne_nil _ (by simp [last])] at mayStart
      exact mayStart
  cases lines : Text.lines rest with
  | nil => exact absurd lines (Text.lines_ne_nil rest)
  | cons first others =>
    refine ⟨literal, isLiteral, before.lastLine, gap ++ first, ?_, starts⟩
    rw [Text.lineAt_behind _ lines, List.append_assoc before,
      Text.lastLine_append_of_plain plainPart, shape]
    simp

/-- A reference to a service stands behind a key for services, in some spelling.  Written in lower
case, the key is one that a pointer finds on the line. -/
theorem exists_key_of_mem {text : Text} {reference : Reference}
    (member : reference ∈ services text) :
    ∃ key ∈ serviceKeys, ∃ before written gap,
      text.take (reference.range.start.toOffset text) = before ++ written ++ ':' :: gap ∧
        List.Forall₂ (fun letter c => Text.sameLetter letter c = true) key.toList written ∧
          (written = key.toList →
            HasServiceKey (Text.lineAt text reference.range.start.line)) := by
  rcases exists_of_mem_find_valueOf member with
    ⟨excerpt, front, rfl, stands, _, _, key, isKey, before, written, gap, rfl, same, mayStart, plain⟩
  have range : (ofExcerpt text .service false excerpt).range = excerpt.range text := rfl
  have offset := stands.toOffset_start
  have line : (excerpt.range text).start.line =
      (Position.behind (before ++ written ++ ':' :: gap)).line := by rw [stands.range_eq]
  refine ⟨key, isKey, before, written, gap, ?_, same, ?_⟩
  · rw [range, offset, ← stands.before_eq]
  · rintro rfl
    rcases stands.2 with ⟨rest, whole⟩
    rw [range, line, ← whole, List.append_assoc _ excerpt.text]
    exact hasServiceKey_of_front isKey mayStart plain _

end HoverTarget

namespace Hover

/-- With a connection and the services listed, let the pointer touch a reference to a service, in a
text of basic characters and without a dot behind it.  If a key for services stands on the line in
lower case, what is shown is about that service, with the range of the reference: a notice that it
is unknown if the check of the document warns of it there, and else the service.  If none does, an
entity is shown instead.  The key of the reference itself is such a key if it is written in lower
case. -/
theorem service_hovers_agree_with_warnings_beside_a_key {ι : Type} [DecidableEq ι]
    (access : Option Access) (timeToLive now : Moment) (calls : List (Lookup.Call ι))
    (document : CheckedDocument) (answers : Answers) (connected : access.isSome = true)
    {services : List Service} (listed : answers.services = .ok services)
    (basic : ∀ c ∈ document.text, c.toNat < 0x80) {reference : Reference}
    (member : reference ∈ Reference.services document.text)
    (noDot : ¬ Reference.DotFollows document.text reference.range) {position : Position}
    (touches : reference.range.Touches position) :
    let text := document.text
    let line := Text.lineAt text reference.range.start.line
    let hover := (find access.isSome text position).given answers
    let found := (validate access.isSome document).given answers
    let work := (Work.new access timeToLive).after
      (calls.map (Lookup.Call.event (Lookup.activity access.isSome)))
    (HoverTarget.HasServiceKey line →
        Agrees hover found reference "unknown-service" (unknownServiceText reference.value)
          (fun shown => ∃ service ∈ services,
            service.fullName = reference.value ∧ shown = serviceText service)) ∧
      (¬ HoverTarget.HasServiceKey line →
        find access.isSome text position =
          ofTarget (.entity reference.value reference.range)) ∧
      (∃ key ∈ Reference.serviceKeys, ∃ before written gap,
        text.take (reference.range.start.toOffset text) = before ++ written ++ ':' :: gap ∧
          List.Forall₂ (fun letter c => Text.sameLetter letter c = true) key.toList written ∧
            (written = key.toList → HoverTarget.HasServiceKey line)) ∧
      (work.store.Offers now answers Asks →
        (∃ later notices, (find access.isSome text position).advance now work.store =
          (.finished hover, later, notices)) ∧
        ∃ later notices, (validate access.isSome document).advance now work.store =
          (.finished found, later, notices)) := by
  intro text line hover found work
  have target := HoverTarget.find_of_mem basic (List.mem_append_right _ member) noDot touches
  have shows : find access.isSome text position = ofTarget (HoverTarget.find text position) := by
    rw [find, if_pos connected]
  refine ⟨fun key => ?_, fun noKey => ?_, HoverTarget.exists_key_of_mem member,
    fun offers => ⟨?_, ?_⟩⟩
  · dsimp only [hover, found]
    rw [shows, target, if_pos key, given_ofTarget_service listed, connected]
    refine agrees_of_lookup (fun service => serviceText_ne_unknownServiceText service _) ?_ ?_
    · rw [Check.exists_unknownService_iff listed member]
      simp
    · intro service first
      have isFirst := List.find?_some first
      exact ⟨service, List.mem_of_find?_eq_some first, by simpa using isFirst, rfl⟩
  · rw [shows, target, if_neg noKey]
  · dsimp only [hover]
    rw [shows, target]
    split
    · exact advance_of_offers_after (asksOnly_ofTarget_service _ _)
        (indexes_ofTarget_service _ _) offers
    · exact advance_of_offers_after (asksOnly_ofTarget_entity _ _) (indexes_ofTarget_entity _ _)
        offers
  · exact advance_of_offers_after (Check.asksOnly_runAll document _)
      (Check.indexes_runAll document _) offers

theorem light_is_shown_as_it_is_warned_of :
    let light : Range := ⟨⟨0, 9⟩, ⟨0, 17⟩⟩
    let answers := servedNothing.answers 2
    let hover : Option Hover := some ⟨unknownServiceText "light.on", some light⟩
    (∃ diagnostic ∈ (validate true Check.twoNames).given answers,
        diagnostic.range = light ∧ diagnostic.finding.code = "unknown-service") ∧
      (find true Check.twoNames.text ⟨0, 9⟩).given answers = hover ∧
      ∃ later notices, (find true Check.twoNames.text ⟨0, 9⟩).advance 2 servedNothing =
        (.finished hover, later, notices) := by
  intro light answers hover
  have warned : ((validate true Check.twoNames).given answers).any (fun diagnostic =>
      diagnostic.range = light ∧ diagnostic.finding.code = "unknown-service") = true := by
    decide +kernel
  rcases List.any_eq_true.mp warned with ⟨diagnostic, found, isWarning⟩
  have warning := of_decide_eq_true isWarning
  have member : ⟨.service, "light.on", light, false⟩ ∈ Reference.services Check.twoNames.text := by
    decide +kernel
  have noDot : ¬ Reference.DotFollows Check.twoNames.text light := by decide
  have key : HoverTarget.HasServiceKey (Text.lineAt Check.twoNames.text 0) := by decide +kernel
  have touches : light.Touches ⟨0, 9⟩ := by decide
  have isListed : answers.services.toOption.isSome = true := by decide +kernel
  cases listed : answers.services with
  | error cause =>
    rw [listed] at isListed
    cases isListed
  | ok services =>
    rcases service_hovers_agree_with_warnings_beside_a_key (some _) 60 2 Check.checkedBefore
      Check.twoNames answers rfl listed twoNames_basic member noDot touches with
      ⟨agree, _, _, runs⟩
    rcases runs servedNothing_offers with ⟨ends, _⟩
    have same : (find true Check.twoNames.text ⟨0, 9⟩).given answers = hover :=
      (agree key).eq_notice ⟨diagnostic, found, warning⟩
    refine ⟨⟨diagnostic, found, warning⟩, same, ?_⟩
    rw [← same]
    exact ends

/-- Behind a key with a capital the service is warned of, but an entity is shown. -/
theorem capital_key_is_not_seen :
    let text := "Service: light.on".toList
    let light : Range := ⟨⟨0, 9⟩, ⟨0, 17⟩⟩
    (∀ c ∈ text, c.toNat < 0x80) ∧
      ⟨.service, "light.on", light, false⟩ ∈ Reference.services text ∧
      ¬ Reference.DotFollows text light ∧ light.Touches ⟨0, 12⟩ ∧
      Check.nothingKnown.services.toOption = some [] ∧
      ⟨light, .unknownService "light.on"⟩ ∈
        (validate true ⟨text, none, .ofPaths [] []⟩).given Check.nothingKnown ∧
      (find true text ⟨0, 12⟩).given Check.nothingKnown =
        some ⟨unknownEntityText "light.on", some light⟩ ∧
      ¬ Agrees ((find true text ⟨0, 12⟩).given Check.nothingKnown)
        ((validate true ⟨text, none, .ofPaths [] []⟩).given Check.nothingKnown)
        ⟨.service, "light.on", light, false⟩ "unknown-service" (unknownServiceText "light.on")
        (fun shown => ∃ service : Service, shown = serviceText service) := by
  intro text light
  have shown : (find true text ⟨0, 12⟩).given Check.nothingKnown =
      some ⟨unknownEntityText "light.on", some light⟩ := by decide +kernel
  have warned : ⟨light, .unknownService "light.on"⟩ ∈
      (validate true ⟨text, none, .ofPaths [] []⟩).given Check.nothingKnown := by decide +kernel
  refine ⟨Text.basic_of_all (by decide), by decide +kernel, by decide, by decide, by rfl, warned,
    shown, ?_⟩
  rintro ⟨other, isShown, notice, _⟩
  rw [shown] at isShown
  have named := notice.mpr ⟨_, warned, rfl, rfl⟩
  have different : unknownEntityText "light.on" ≠ unknownServiceText "light.on" := by
    decide
  cases isShown
  exact different named

end Hover

end HomeConfig
