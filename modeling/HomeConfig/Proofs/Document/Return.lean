import HomeConfig.Proofs.Document.Reference
import HomeConfig.Proofs.Text.Return
import HomeConfig.Proofs.Text.Token

/-!
# References in a text with carriage returns

A name has the same line and the same column whether the lines in front of it end in a line feed or
in a carriage return and a line feed.  So what is left to ask of a shape of references is whether it
finds the same names.

The value of a key stands on its line, with nothing but blanks in front of it.  The argument of a
call may stand on a later line than its bracket, but there a carriage return is as good a blank as a
line feed.  Both shapes find the same in the two texts.

The list below a key does not.  Behind the colon only spaces and tabs may stand in front of the line
feed, and a carriage return is neither.  In a text with returns no such list is found at all, so the
references to entities are the same just in those texts where there is none to find.
-/

namespace HomeConfig

/-! ## Ranges -/

namespace Excerpt.StandsBehind

variable {text before : Text} {excerpt : Excerpt}

theorem withReturns (stands : excerpt.StandsBehind text before) :
    (excerpt.withReturns text).StandsBehind (Text.withReturns text) (Text.withReturns before) := by
  rcases stands with ⟨length, rest, rfl⟩
  constructor
  · rw [Excerpt.withReturns, ← length, List.append_assoc, List.take_left]
  · rw [Text.withReturns_append, Text.withReturns_append]
    exact List.prefix_append _ _

/-- An excerpt has the same range in the text with returns. -/
theorem range_withReturns (stands : excerpt.StandsBehind text before) :
    (excerpt.withReturns text).range (Text.withReturns text) = excerpt.range text := by
  rw [stands.withReturns.range_eq, stands.range_eq, Excerpt.withReturns, ← Text.withReturns_append,
    Position.behind_withReturns, Position.behind_withReturns]

end Excerpt.StandsBehind

namespace Reference

open Recogniser

/-! ## Shapes -/

/-- A shape that is found in a text with returns just where it is found in the text. -/
structure ReadsThrough (shape : Option Char → Recogniser (List Excerpt)) : Prop where
  seen (text : Text) (before : Option Char) :
    Seen (.withReturns text) (List.map (Excerpt.withReturns text)) (shape before) (shape before)
  begins : Text.BeginsOnLine shape

theorem find_withReturns {introduces : Text → Text → Prop}
    {shape : Option Char → Recogniser (List Excerpt)} (reads : ReadsThrough shape)
    (finds : Finds introduces shape)
    (plain : ∀ front name, introduces front name → '\n' ∉ name) (kind : Kind) (text : Text)
    (inTemplate : Bool) :
    find kind shape (Text.withReturns text) inTemplate = find kind shape text inTemplate := by
  unfold find
  rw [Text.scan_withReturns (reads.seen text) reads.begins, ← List.map_flatten, List.map_map]
  apply List.map_congr_left
  intro excerpt found
  rcases finds.scan text with ⟨_, yields⟩
  rcases yields.stands excerpt found with ⟨front, stands, introduced⟩
  have name : (excerpt.withReturns text).text = excerpt.text :=
    Text.withReturns_of_plain (plain _ _ introduced)
  have range : Range.ofOffsets (Text.withReturns text) (excerpt.withReturns text).start
      (excerpt.withReturns text).stop = Range.ofOffsets text excerpt.start excerpt.stop :=
    stands.range_withReturns
  rw [Function.comp_apply, ofExcerpt, ofExcerpt, name, range]

theorem Introduces.feed_notMem {sign : Char} {leads : Text → Prop} {front name : Text}
    (introduced : Introduces sign leads front name) : '\n' ∉ name := by
  rcases introduced with ⟨_, _, _, dotted⟩
  exact dotted.feed_notMem

/-- A word with no end of a line in it. -/
def KeepsToLine (word : Text) : Prop :=
  word ≠ [] ∧ '\n' ∉ word ∧ '\r' ∉ word

instance (word : Text) : Decidable (KeepsToLine word) :=
  inferInstanceAs (Decidable (_ ∧ _))

theorem KeepsToLine.stopsAtEnds {word : Text} (keeps : KeepsToLine word) :
    ∀ letter ∈ word, StopsAtEnds (Text.sameLetter letter) := by
  intro letter member
  constructor
  · refine beq_eq_false_iff_ne.mpr ?_
    rintro rfl
    exact keeps.2.1 member
  · refine beq_eq_false_iff_ne.mpr ?_
    rintro rfl
    exact keeps.2.2 member

theorem keyword_returns {text : Text} {word : String} (keeps : KeepsToLine word.toList) :
    Seen (.withReturns text) id (keyword word) (keyword word) :=
  Seen.literalBy_returns keeps.stopsAtEnds

theorem anyKeyword_returns {text : Text} {words : List String}
    (keep : ∀ word ∈ words, KeepsToLine word.toList) :
    Seen (.withReturns text) id (anyKeyword words) (anyKeyword words) := by
  apply Seen.firstOf
  intro choice member
  rcases List.mem_map.mp member with ⟨word, wanted, rfl⟩
  exact keyword_returns (keep word wanted)

/-- A shape that begins with a word does not begin at the end of a line. -/
theorem beginsOnLine_of_word {shape : Option Char → Recogniser (List Excerpt)}
    (starts : ∀ before cursor found, StateT.run (shape before) cursor = some found →
      ∃ word, KeepsToLine word ∧ ∃ written between, cursor.Moves written between ∧
        List.Forall₂ (fun letter c => Text.sameLetter letter c = true) word written) :
    Text.BeginsOnLine shape := by
  intro before offset c rest isEnd
  cases read : StateT.run (shape before) ⟨offset, c :: rest⟩ with
  | none => rfl
  | some found =>
    rcases starts before _ found read with ⟨word, keeps, written, between, moves, same⟩
    cases same with
    | nil => exact absurd rfl keeps.1
    | @cons letter d _ _ here _ =>
      have first : c = d := (List.cons.inj moves.rest).1
      subst first
      have stops := keeps.stopsAtEnds letter (List.mem_cons_self ..)
      rcases isEnd with rfl | rfl
      · exact absurd here (by simp [stops.feed])
      · exact absurd here (by simp [stops.return_])

theorem readsThrough_valueOf {keys : List String} (keep : ∀ key ∈ keys, KeepsToLine key.toList) :
    ReadsThrough (valueOf keys) where
  seen := by
    intro text before
    apply (Seen.require _).bind
    intro _
    apply (anyKeyword_returns keep).bind
    intro _
    apply (Seen.literalBy_returns (by simpa using ⟨rfl, rfl⟩)).bind
    intro _
    apply (Seen.skip_returns rfl).bind
    intro _
    apply (Seen.skipOne_returns ⟨rfl, rfl⟩).bind
    intro _
    apply Seen.dottedName_returns.bind
    intro name
    apply (Seen.ahead_returns (by decide)).bind
    intro _
    exact .pure [name]
  begins := by
    apply beginsOnLine_of_word
    intro before cursor found read
    rcases bind_eq_some read with ⟨_, first, required, read⟩
    rcases require_eq_some required with ⟨rfl, _⟩
    rcases bind_eq_some read with ⟨_, second, key, _⟩
    rcases anyKeyword_eq_some key with ⟨word, member, written, passes, same⟩
    exact ⟨word.toList, keep word member, written, second, passes, same⟩

theorem readsThrough_argumentOf {function : String} (keeps : KeepsToLine function.toList)
    (alone : Bool) : ReadsThrough (argumentOf function alone) where
  seen := by
    intro text before
    apply (Seen.require _).bind
    intro _
    apply (keyword_returns keeps).bind
    intro _
    apply (Seen.literalBy_returns (by simpa using ⟨rfl, rfl⟩)).bind
    intro _
    apply (Seen.skip_returns (by decide)).bind
    intro _
    apply (Seen.one_returns ⟨rfl, rfl⟩).bind
    intro _
    apply Seen.dottedName_returns.bind
    intro name
    apply (Seen.one_returns ⟨rfl, rfl⟩).bind
    intro _
    cases alone with
    | false => exact .pure [name]
    | true =>
      apply (Seen.skip_returns (by decide)).bind
      intro _
      apply (Seen.literalBy_returns (by simpa using ⟨rfl, rfl⟩)).bind
      intro _
      exact .pure [name]
  begins := by
    apply beginsOnLine_of_word
    intro before cursor found read
    rcases bind_eq_some read with ⟨_, first, required, read⟩
    rcases require_eq_some required with ⟨rfl, _⟩
    rcases bind_eq_some read with ⟨_, second, word, _⟩
    rcases literalBy_eq_some word with ⟨written, passes, same⟩
    exact ⟨function.toList, keeps, written, second, passes, same⟩

/-- Behind a key and its colon there is no end of a line that a list could begin at. -/
theorem find_listBelow_withReturns (keys : List String) (kind : Kind) (text : Text)
    (inTemplate : Bool) : find kind (listBelow keys) (Text.withReturns text) inTemplate = [] := by
  have nothing : Text.scan (listBelow keys) (Text.withReturns text) = [] := by
    apply List.eq_nil_iff_forall_not_mem.mpr
    intro excerpts member
    rcases Text.exists_of_mem_scan member with ⟨front, cursor, after, stands, read⟩
    rcases listBelow_eq_some read with ⟨opening, blanks, below, _, passes, _, indents, _⟩
    have whole : Text.withReturns text =
        (front ++ opening ++ ':' :: blanks) ++ '\n' :: below.rest := by
      rw [stands.rest, passes.rest]
      simp
    have last := Text.getLast?_of_feed whole
    rw [List.getLast?_append_of_ne_nil _ (List.cons_ne_nil _ _)] at last
    rcases List.mem_cons.mp (List.mem_of_getLast? last) with colon | blank
    · exact absurd colon (by decide)
    · exact absurd (indents _ blank) (by decide)
  rw [find, nothing]
  rfl

/-! ## Entities -/

/-- With returns the entities in lists below a key are not found, and all others are, under the same
names and at the same places.  So the references are the same just where there is no such list. -/
theorem returns_hide_lists_alone (text : Text) :
    entities (Text.withReturns text) =
        find .entity (valueOf entityKeys) text ++
          find .entity (argumentOf "states" true) text true ++
            find .entity (argumentOf "is_state" false) text true ∧
      (entities (Text.withReturns text) = entities text ↔
        find .entity (listBelow entityKeys) text = []) := by
  have dotted {sign : Char} {leads : Text → Prop} (front name : Text)
      (introduced : Introduces sign leads front name) : '\n' ∉ name :=
    introduced.feed_notMem
  have keys := find_withReturns (readsThrough_valueOf (by decide)) (finds_valueOf entityKeys) dotted
    .entity text false
  have states := find_withReturns (readsThrough_argumentOf (by decide) true)
    (finds_argumentOf "states" true) dotted .entity text true
  have isState := find_withReturns (readsThrough_argumentOf (by decide) false)
    (finds_argumentOf "is_state" false) dotted .entity text true
  have found : entities (Text.withReturns text) =
      find .entity (valueOf entityKeys) text ++
        find .entity (argumentOf "states" true) text true ++
          find .entity (argumentOf "is_state" false) text true := by
    rw [entities, keys, find_listBelow_withReturns, states, isState, List.append_nil]
  constructor
  · exact found
  · rw [found, entities]
    simp

/-- The entity of a list below its key is found in a text without returns, but not with them. -/
theorem list_is_missed_behind_a_return :
    ¬ ∀ text : Text, '\r' ∉ text →
      (entities (Text.withReturns text)).map (fun found => (found.value, found.range)) =
        (entities text).map fun found => (found.value, found.range) := by
  intro same
  have here := same "entity_id:\n  - light.kitchen\n".toList (by decide)
  revert here
  decide +kernel

end Reference

end HomeConfig
