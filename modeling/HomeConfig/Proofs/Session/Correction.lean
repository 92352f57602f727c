import HomeConfig.Proofs.Document.Unknown
import HomeConfig.Proofs.Editor.Change
import HomeConfig.Proofs.Session.Run

/-!
# Correcting a name where it is reported

An editor that is told of an unknown name is given a range, and whoever corrects the name there sends
the same range back.  The range is meant to cover the name, so that what is sent replaces it.

It does, as far as the two sides count alike.  Findings count the characters of lines that end at
line feeds, while changes count units of two bytes on lines that end at every line break.  So a
character of two units in front of the name, or a line break of another kind, makes the change hit
another place of the document.
-/

namespace HomeConfig

/-! ## Names in a change -/

theorem Text.isBlank_of_isLineBreak {c : Char} (isBreak : Change.isLineBreak c = true) :
    isBlank c = true := by
  simp only [Change.isLineBreak, Bool.or_eq_true, beq_iff_eq] at isBreak
  rcases isBreak with ((((((((rfl | rfl) | rfl) | rfl) | rfl) | rfl) | rfl) | rfl) | rfl) | rfl
  all_goals decide

namespace Recogniser

variable {name : Text}

theorem IsDotted.not_isLineBreak (dotted : IsDotted name) :
    ∀ c ∈ name, Change.isLineBreak c = false := by
  intro c member
  have solid := dotted.not_isBlank member
  cases isBreak : Change.isLineBreak c with
  | false => rfl
  | true =>
    rw [Text.isBlank_of_isLineBreak isBreak] at solid
    cases solid

theorem IsDotted.width_eq_one (dotted : IsDotted name) : ∀ c ∈ name, Change.width c = 1 := by
  intro c member
  have codes := dotted.toNat_of_mem member
  simp only [List.mem_cons, List.not_mem_nil, or_false] at codes
  rw [Change.width, if_pos (by omega)]

end Recogniser

namespace Session

theorem text?_changed (session : Session) (uri : String) (changes : List Change) :
    (session.changed uri changes).2.text? uri =
      (session.text? uri).map (changes.foldl Change.apply ·) := by
  unfold changed
  cases opened : session.text? uri with
  | none => exact opened
  | some text =>
    have changed := session.documents.text?_change_self uri changes
    rw [show session.documents.text? uri = some text from opened] at changed
    exact changed

/-- A name that is reported unknown stands in the document where it is reported.  Sent back with the
same range, another name replaces it and nothing else, if in front of it the document has only line
breaks that are line feeds, with or without a carriage return, and on its own line only characters
of one unit. -/
theorem corrections_replace_the_reported_name (session : Session) (tree : FileTree) (uri : String)
    (text : Text) (answers : Answers) (diagnostic : Diagnostic) (name : String)
    (opened : session.text? uri = some text)
    (found : diagnostic ∈ (session.check tree uri text).given answers)
    (names : diagnostic.finding = .unknownEntity name ∨
      diagnostic.finding = .unknownService name) :
    ∃ before after, text = before ++ name.toList ++ after ∧
      diagnostic.range.start.toOffset text = before.length ∧
        (Change.breaksAtFeeds before = true → (∀ c ∈ before.lastLine, Change.width c = 1) →
          ∀ replacement, (session.changed uri [.part diagnostic.range replacement]).2.text? uri =
            some (before ++ replacement ++ after)) := by
  rcases Check.exists_reference_of_mem answers _ _ found names with ⟨reference, referred, range, rfl⟩
  rcases Reference.exists_excerpt_of_mem text reference referred with
    ⟨excerpt, before, value, place, stands, dotted⟩
  have start := stands.toOffset_start
  rcases stands with ⟨length, after, rfl⟩
  have same : excerpt = ⟨before.length, excerpt.text⟩ := by rw [length]
  have whole : reference.value.toList = excerpt.text := by rw [value, String.toList_ofList]
  refine ⟨before, after, by rw [whole], by rw [range, place, start, length], ?_⟩
  intro feeds narrow replacement
  have replaced := Change.apply_part_range dotted.ne_nil dotted.not_isLineBreak dotted.width_eq_one
    feeds narrow after replacement
  rw [text?_changed, opened, range, place, same]
  exact congrArg some replaced

theorem attic_is_corrected_on_its_line :
    let text := "alias: Küche\r\nentity_id: light.attic\n".toList
    let session := (online.opened "file:///a.yaml" text).2
    let attic : Range := ⟨⟨1, 11⟩, ⟨1, 22⟩⟩
    session.text? "file:///a.yaml" = some text ∧
      ⟨attic, .unknownEntity "light.attic"⟩ ∈
        (session.check (.ofPaths [] []) "file:///a.yaml" text).given Check.nothingKnown ∧
      (session.changed "file:///a.yaml" [.part attic "light.kitchen".toList]).2.text?
        "file:///a.yaml" = some "alias: Küche\r\nentity_id: light.kitchen\n".toList := by
  intro text session attic
  have opened : session.text? "file:///a.yaml" = some text := by decide +kernel
  have found : ⟨attic, .unknownEntity "light.attic"⟩ ∈
      (session.check (.ofPaths [] []) "file:///a.yaml" text).given Check.nothingKnown := by
    decide +kernel
  rcases corrections_replace_the_reported_name session (.ofPaths [] []) "file:///a.yaml" text
      Check.nothingKnown _ "light.attic" opened found (Or.inl rfl) with
    ⟨before, after, shape, start, replaced⟩
  -- The theorem tells where the name starts, and this determines what stands on both sides of it.
  have length : before.length = 25 := start.symm.trans (by decide +kernel)
  have pieces : text = "alias: Küche\r\nentity_id: ".toList ++ ("light.attic".toList ++ ['\n']) := by
    decide +kernel
  rw [List.append_assoc] at shape
  rcases List.append_inj (shape.symm.trans pieces) (length.trans (by decide +kernel)) with
    ⟨rfl, rest⟩
  have last : after = ['\n'] := List.append_cancel_left rest
  have narrow : (Text.lastLine "alias: Küche\r\nentity_id: ".toList).all
      (fun c => Change.width c == 1) = true := by
    decide +kernel
  refine ⟨opened, found, ?_⟩
  rw [replaced (by decide +kernel) fun c member => eq_of_beq (List.all_eq_true.mp narrow c member),
    last]
  decide +kernel

/-- Behind a character of two units the name is not replaced, but what begins one character before
it. -/
theorem attic_is_missed_behind_two_units :
    let text := "- \x7bname: 😀, entity_id: light.attic\x7d\n".toList
    let session := (online.opened "file:///a.yaml" text).2
    let attic : Range := ⟨⟨0, 23⟩, ⟨0, 34⟩⟩
    let kitchen := "light.kitchen".toList
    session.text? "file:///a.yaml" = some text ∧
      ⟨attic, .unknownEntity "light.attic"⟩ ∈
        (session.check (.ofPaths [] []) "file:///a.yaml" text).given Check.nothingKnown ∧
      text = text.take 23 ++ "light.attic".toList ++ text.drop 34 ∧
      (session.changed "file:///a.yaml" [.part attic kitchen]).2.text? "file:///a.yaml" =
        some "- \x7bname: 😀, entity_id:light.kitchenc\x7d\n".toList ∧
      (session.changed "file:///a.yaml" [.part attic kitchen]).2.text? "file:///a.yaml" ≠
        some (text.take 23 ++ kitchen ++ text.drop 34) := by
  refine ⟨?_, ?_, ?_, ?_, ?_⟩
  all_goals decide +kernel

end Session

end HomeConfig
