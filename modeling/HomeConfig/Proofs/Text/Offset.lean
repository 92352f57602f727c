import HomeConfig.Proofs.Text.Confined
import HomeConfig.Proofs.Text.Token

/-!
# Offsets and positions are inverse

An offset is a place between two characters of a text, and so is a position, but one and the same
place has a single offset while many positions lead to it: a column behind the end of a line means
the end of that line, and a line behind the text means the end of the text.  An offset outside the
text means the nearer end of it.

So the two translations undo each other on the offsets of the text and on the positions within its
lines, and they keep the order of places.  Everything else is clamped.  What the end of a line is,
is said here without positions (`Text.EndsLineAt`): so many line feeds stand in front of it, and
behind it comes a line feed or nothing.  The line feed belongs to no column, so the part of a text
from the first column of a line to its end is that line.
-/

namespace HomeConfig

open Recogniser

/-- An offset at which a line ends: in front of its line feed, or at the end of the text. -/
structure Text.EndsLineAt (text : Text) (line offset : Nat) : Prop where
  inside : offset ≤ text.length
  number : (text.take offset).count '\n' = line
  ends : EndsLine (text.drop offset)

namespace Text

variable {text rest : Text} {others : List Text}

theorem lastLine_append_feed (text : Text) : lastLine (text ++ ['\n']) = [] := by
  induction text with
  | nil => rfl
  | cons c text inductionHypothesis =>
    have feed : '\n' ∈ text ++ ['\n'] := by simp
    rw [List.cons_append, lastLine, if_pos feed, inductionHypothesis]

/-- What goes on with an empty line begins with a line feed, or is nothing. -/
theorem endsLine_of_lines (shape : lines rest = [] :: others) : EndsLine rest := by
  intro c next
  cases rest with
  | nil => cases next
  | cons d rest =>
    cases Option.some.inj next
    by_contra different
    cases later : lines rest with
    | nil => exact lines_ne_nil rest later
    | cons first _ =>
      rw [lines_cons_of_ne different later] at shape
      cases shape

end Text

namespace Position

variable {text : Text}

/-! ## Offsets in order -/

/-- The position of an offset is the one behind what stands before it, and an offset behind the text
is taken for its end. -/
theorem ofOffset_eq_behind (text : Text) (offset : Nat) :
    ofOffset text offset = behind (text.take offset) := by
  induction text generalizing offset with
  | nil => rw [List.take_nil]; rfl
  | cons c rest inductionHypothesis =>
    cases offset with
    | zero => rfl
    | succ offset =>
      rw [ofOffset, List.take_succ_cons, inductionHypothesis]
      by_cases feed : c = '\n'
      · subst feed
        rw [if_pos rfl, behind_feed]
      · rw [if_neg feed, behind_cons feed]
        split
        next first => rw [first]
        next => rfl

theorem behind_lt_append {part : Text} (some_ : part ≠ []) (text : Text) :
    behind text < behind (text ++ part) := by
  by_cases feed : '\n' ∈ part
  · have feeds : 0 < part.count '\n' := List.count_pos_iff.mpr feed
    refine Or.inl ?_
    simp only [behind, List.count_append]
    omega
  · rw [behind_append_of_plain feed]
    exact Or.inr ⟨rfl, Nat.lt_add_of_pos_right (List.length_pos_iff.mpr some_)⟩

theorem ofOffset_lt_ofOffset {first second : Nat} (earlier : first < second)
    (inside : second ≤ text.length) : ofOffset text first < ofOffset text second := by
  have parts : text.take second = text.take first ++ (text.drop first).take (second - first) := by
    rw [← List.take_add, Nat.add_sub_cancel' earlier.le]
  have some_ : (text.drop first).take (second - first) ≠ [] := by
    refine List.ne_nil_of_length_pos ?_
    rw [List.length_take, List.length_drop]
    omega
  rw [ofOffset_eq_behind, ofOffset_eq_behind, parts]
  exact behind_lt_append some_ _

theorem ofSigned_natCast (text : Text) (offset : Nat) :
    ofSigned text offset = ofOffset text offset := by
  rw [ofSigned, Int.toNat_natCast]

/-- An offset outside the text is taken for the nearer end. -/
theorem ofSigned_clamp (text : Text) (offset : Int) :
    ofSigned text offset = ofSigned text (max 0 (min offset text.length)) := by
  have same : text.take offset.toNat = text.take (max 0 (min offset text.length)).toNat := by
    rcases Int.le_total offset text.length with inside | beyond
    · congr 1
      omega
    · rw [List.take_of_length_le (by omega), List.take_of_length_le (by omega)]
  rw [ofSigned, ofSigned, ofOffset_eq_behind, ofOffset_eq_behind, same]

/-! ## Positions within lines -/

theorem ofOffset_toOffset {place : Position} (inside : place.line < (Text.lines text).length)
    (within : place.character ≤ (Text.lineAt text place.line).length) :
    ofOffset text (place.toOffset text) = place := by
  rcases exists_behind inside within with ⟨before, rest, rfl, rfl⟩
  rw [toOffset_behind, ofOffset_length]

/-! ## Positions that lie outside -/

/-- A line behind the text means the end of the text. -/
theorem toOffset_of_le {place : Position} (beyond : (Text.lines text).length ≤ place.line) :
    place.toOffset text = text.length := by
  obtain ⟨line, column⟩ := place
  dsimp only at beyond
  induction text generalizing line with
  | nil => rfl
  | cons c text inductionHypothesis =>
    have some_ : 0 < (Text.lines text).length := List.length_pos_iff.mpr (Text.lines_ne_nil text)
    by_cases feed : c = '\n'
    · subst feed
      rw [Text.lines_newline, List.length_cons] at beyond
      cases line with
      | zero => omega
      | succ line =>
        rw [toOffset, if_pos rfl, inductionHypothesis line (by omega), List.length_cons]
    · cases shape : Text.lines text with
      | nil => exact absurd shape (Text.lines_ne_nil text)
      | cons first others =>
        rw [Text.lines_cons_of_ne feed shape, List.length_cons, ← List.length_cons,
          ← shape] at beyond
        cases line with
        | zero => omega
        | succ line =>
          rw [toOffset, if_neg feed, inductionHypothesis (line + 1) beyond, List.length_cons]

/-- A column behind the end of a line means the end of that line. -/
theorem toOffset_of_length_le {line column : Nat}
    (beyond : (Text.lineAt text line).length ≤ column) :
    (⟨line, column⟩ : Position).toOffset text =
      (⟨line, (Text.lineAt text line).length⟩ : Position).toOffset text := by
  simp only [Text.lineAt_natCast] at beyond ⊢
  induction text generalizing line column with
  | nil => rfl
  | cons c text inductionHypothesis =>
    by_cases feed : c = '\n'
    · subst feed
      rw [Text.lines_newline] at beyond ⊢
      cases line with
      | zero => simp [toOffset]
      | succ line =>
        rw [List.getElem?_cons_succ] at beyond ⊢
        rw [toOffset, if_pos rfl, toOffset, if_pos rfl, inductionHypothesis beyond]
    · cases shape : Text.lines text with
      | nil => exact absurd shape (Text.lines_ne_nil text)
      | cons first others =>
        rw [Text.lines_cons_of_ne feed shape] at beyond ⊢
        rw [shape] at inductionHypothesis
        cases line with
        | zero =>
          simp only [List.getElem?_cons_zero, Option.getD_some, List.length_cons] at beyond ⊢
          cases column with
          | zero => omega
          | succ column =>
            have within : ((first :: others)[0]?.getD []).length ≤ column := by simpa using beyond
            have later := inductionHypothesis within
            simpa [toOffset, feed] using later
        | succ line =>
          have within : ((first :: others)[line + 1]?.getD []).length ≤ column := by
            simpa using beyond
          rw [toOffset, if_neg feed, toOffset, if_neg feed, inductionHypothesis within]
          simp

/-- The end of a line is found from the line and any column that is not in front of it.  What stands
between the first column and there is the line. -/
theorem exists_lineEnd {line : Nat} (inside : line < (Text.lines text).length) :
    ∃ ended rest, text = ended ++ Text.lineAt text line ++ rest ∧ behind ended = ⟨line, 0⟩ ∧
      (ended ++ Text.lineAt text line).count '\n' = line ∧ EndsLine rest ∧
        ∀ column, (Text.lineAt text line).length ≤ column →
          (⟨line, column⟩ : Position).toOffset text = (ended ++ Text.lineAt text line).length := by
  have reached : ∃ before rest, text = before ++ rest ∧
      behind before = ⟨line, (Text.lineAt text line).length⟩ := exists_behind inside (Nat.le_refl _)
  rcases reached with ⟨before, rest, shape, place⟩
  have number : before.count '\n' = line := congrArg Position.line place
  have width : before.lastLine.length = (Text.lineAt text line).length :=
    congrArg Position.character place
  -- The line is the last one in front of the place, so nothing of it is left behind the place.
  cases later : Text.lines rest with
  | nil => exact absurd later (Text.lines_ne_nil rest)
  | cons first others =>
    have whole : Text.lineAt text line = before.lastLine ++ first := by
      have here := Text.lineAt_behind before later
      rwa [← shape, place] at here
    have nothing : first = [] := by
      rw [whole, List.length_append] at width
      exact List.length_eq_zero_iff.mp (by omega)
    subst nothing
    rw [List.append_nil] at whole
    rcases Text.exists_append_lastLine before with ⟨ended, parts, begins⟩
    rw [← whole] at parts
    have start : behind ended = ⟨line, 0⟩ := by
      have plain : '\n' ∉ Text.lineAt text line := whole ▸ Text.feed_notMem_lastLine before
      have feeds : ended.count '\n' = line := by
        rw [parts, List.count_append, List.count_eq_zero.mpr plain] at number
        exact number
      have empty : ended.lastLine = [] := by
        rcases begins with rfl | ⟨earlier, rfl⟩
        · rfl
        · exact Text.lastLine_append_feed earlier
      rw [behind, feeds, empty]
      rfl
    refine ⟨ended, rest, parts ▸ shape, start, parts ▸ number, Text.endsLine_of_lines later, ?_⟩
    intro column beyond
    rw [toOffset_of_length_le beyond, ← place, ← parts]
    conv_lhs => rw [shape]
    exact toOffset_behind before rest

theorem endsLineAt_toOffset {place : Position} (inside : place.line < (Text.lines text).length)
    (beyond : (Text.lineAt text place.line).length ≤ place.character) :
    text.EndsLineAt place.line (place.toOffset text) := by
  obtain ⟨line, column⟩ := place
  rcases exists_lineEnd inside with ⟨ended, rest, shape, _, number, ends, reached⟩
  rw [reached column beyond]
  generalize ended ++ Text.lineAt text line = front at shape number
  subst shape
  constructor
  · rw [List.length_append]
    exact Nat.le_add_right _ _
  · rw [List.take_left, number]
  · rw [List.drop_left]
    exact ends

end Position

/-- From its first column to its end, a line is cut out of the text.  There are no lines behind the
text, and nothing is cut out there. -/
theorem Range.slice_line (text : Text) {line column : Nat}
    (beyond : (Text.lineAt text line).length ≤ column) :
    Range.slice text ⟨⟨line, 0⟩, ⟨line, column⟩⟩ = Text.lineAt text line := by
  rcases Nat.lt_or_ge line (Text.lines text).length with inside | outside
  · rcases Position.exists_lineEnd inside with ⟨ended, rest, shape, start, _, _, reached⟩
    have first : (⟨line, 0⟩ : Position).toOffset text = ended.length := by
      rw [← start]
      conv_lhs => rw [shape, List.append_assoc]
      exact Position.toOffset_behind ended _
    rw [slice, reached column beyond, first]
    generalize Text.lineAt text line = whole at shape
    rw [shape, List.take_left, List.drop_left]
  · have nothing : Text.lineAt text line = [] := by
      rw [Text.lineAt_natCast, List.getElem?_eq_none outside]
      rfl
    rw [slice, Position.toOffset_of_le outside, Position.toOffset_of_le outside, nothing,
      List.take_length, List.drop_length]

namespace Position

/-- Offsets and positions are inverse to each other within a text and its lines, positions come in
the order of offsets, and whatever lies outside is clamped: an offset to the nearer end of the text,
a column to the end of its line, a line to the end of the text.  Between the first column and the
end of a line stands that line. -/
theorem positions_and_offsets_are_inverse (text : Text) :
    (∀ offset : Nat, offset ≤ text.length → (ofSigned text offset).toOffset text = offset) ∧
      (∀ place : Position, place.line < (Text.lines text).length →
        place.character ≤ (Text.lineAt text place.line).length →
          ofSigned text (place.toOffset text) = place) ∧
      (∀ first second : Int, 0 ≤ first → first < second → second ≤ text.length →
        ofSigned text first < ofSigned text second) ∧
      (∀ offset : Int, ofSigned text offset = ofSigned text (max 0 (min offset text.length))) ∧
      (∀ place : Position, place.line < (Text.lines text).length →
        (Text.lineAt text place.line).length ≤ place.character →
          text.EndsLineAt place.line (place.toOffset text)) ∧
      (∀ place : Position, (Text.lines text).length ≤ place.line →
        place.toOffset text = text.length) ∧
      ∀ line column : Nat, (Text.lineAt text line).length ≤ column →
        Range.slice text ⟨⟨line, 0⟩, ⟨line, column⟩⟩ = Text.lineAt text line := by
  refine ⟨?_, ?_, ?_, ofSigned_clamp text, ?_, ?_, ?_⟩
  · intro offset inside
    rw [ofSigned_natCast, toOffset_ofOffset inside]
  · intro place inside within
    rw [ofSigned_natCast, ofOffset_toOffset inside within]
  · intro first second positive earlier inside
    exact ofOffset_lt_ofOffset (by omega) (by omega)
  · intro place inside beyond
    exact endsLineAt_toOffset inside beyond
  · intro place beyond
    exact toOffset_of_le beyond
  · intro line column beyond
    exact Range.slice_line text beyond

theorem places_around_an_empty_line :
    let text := "ab\n\ncd".toList
    (3 ≤ text.length ∧ (ofSigned text (3 : Nat)).toOffset text = 3) ∧
      (2 < (Text.lines text).length ∧ 1 ≤ (Text.lineAt text (2 : Nat)).length ∧
        ofSigned text ((⟨2, 1⟩ : Position).toOffset text) = ⟨2, 1⟩) ∧
      ofSigned text 2 < ofSigned text 3 ∧ ofSigned text (-4) = ⟨0, 0⟩ ∧
      (0 < (Text.lines text).length ∧ (Text.lineAt text (0 : Nat)).length ≤ 7 ∧
        Text.EndsLineAt text 0 ((⟨0, 7⟩ : Position).toOffset text)) ∧
      ((Text.lines text).length ≤ 5 ∧ (⟨5, 1⟩ : Position).toOffset text = text.length) ∧
      (Text.lineAt text (1 : Nat)).length ≤ 4 ∧
        Range.slice text ⟨⟨1, 0⟩, ⟨1, 4⟩⟩ = Text.lineAt text (1 : Nat) := by
  intro text
  rcases positions_and_offsets_are_inverse text with
    ⟨offsets, places, ordered, clamped, lineEnds, textEnd, lines⟩
  refine ⟨⟨by decide, offsets 3 (by decide)⟩, ⟨by decide, by decide, ?_⟩, ?_, clamped (-4), ?_,
    ⟨by decide, textEnd ⟨5, 1⟩ (by decide)⟩, by decide, lines 1 4 (by decide)⟩
  · exact places ⟨2, 1⟩ (by decide) (by decide)
  · exact ordered 2 3 (by decide) (by decide) (by decide)
  · exact ⟨by decide, by decide, lineEnds ⟨0, 7⟩ (by decide) (by decide)⟩

end Position

end HomeConfig
