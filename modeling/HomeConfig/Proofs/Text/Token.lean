import HomeConfig.Proofs.Text.Line
import HomeConfig.Proofs.Text.Part

/-!
# Tokens

A cursor may rest in front of any character of a word and behind its last one, and the token under
it should be the word each time.  It is, for any part of a text that is made of token characters and
has none around it (`Excerpt.StandsBehind.tokenSpan_eq`).

What a cursor touches is said in lines and columns, so the places that a part without line feeds
touches are counted out here too (`Excerpt.StandsBehind.exists_cut`).
-/

namespace HomeConfig

namespace Text

theorem tokenRun_append_of_stops {part rest : Text} (all : ∀ c ∈ part, isTokenChar c = true)
    (stops : rest.head?.any isTokenChar = false) : tokenRun (part ++ rest) = part.length := by
  rw [tokenRun, takeWhile_append_of_stops all stops]

/-- What is in front of the first separator, and what is behind it. -/
theorem cut_append {separator : Char} {part : Text} (absent : separator ∉ part) (rest : Text) :
    cut separator (part ++ separator :: rest) = (part, some rest) := by
  have passed : ∀ c ∈ part, (c != separator) = true :=
    fun c member => bne_iff_ne.mpr fun same => absent (same ▸ member)
  have stops : (separator :: rest).head?.any (· != separator) = false := by simp
  rw [cut, dropWhile_append_of_stops passed stops, takeWhile_append_of_stops passed stops]

end Text

/-! ## Places -/

namespace Position

theorem not_lt_iff (first second : Position) : ¬ first < second ↔
    second.line ≤ first.line ∧
      (first.line = second.line → second.character ≤ first.character) := by
  have meaning : first < second ↔ first.line < second.line ∨
      first.line = second.line ∧ first.character < second.character := Iff.rfl
  rw [meaning, not_or, not_and, Nat.not_lt, Nat.not_lt]

theorem behind_append_of_plain {part : Text} (plain : '\n' ∉ part) (text : Text) :
    behind (text ++ part) = ⟨(behind text).line, (behind text).character + part.length⟩ := by
  simp only [behind, Text.lastLine_append_of_plain plain, List.count_append,
    List.count_eq_zero.mpr plain, List.length_append, Nat.add_zero]

/-- The line of the place behind a text is one of the text, whatever follows. -/
theorem line_behind_lt (text rest : Text) :
    (behind text).line < (Text.lines (text ++ rest)).length := by
  cases shape : Text.lines rest with
  | nil => exact absurd shape (Text.lines_ne_nil rest)
  | cons first others =>
    rw [Text.lines_append text shape, List.length_append, Text.length_endedLines, behind]
    simp

end Position

/-- A place is in a range or at one of its ends. -/
def Range.Touches (range : Range) (position : Position) : Prop :=
  ¬ position < range.start ∧ ¬ range.stop < position

instance (range : Range) (position : Position) : Decidable (range.Touches position) :=
  inferInstanceAs (Decidable (_ ∧ _))

namespace Excerpt.StandsBehind

variable {text before : Text} {excerpt : Excerpt}

/-- The range of an excerpt goes from the place in front of it to the place behind it. -/
theorem range_eq (stands : excerpt.StandsBehind text before) :
    excerpt.range text = ⟨.behind before, .behind (before ++ excerpt.text)⟩ := by
  rcases stands with ⟨length, rest, rfl⟩
  have start := Position.ofOffset_length before (excerpt.text ++ rest)
  have stop := Position.ofOffset_length (before ++ excerpt.text) rest
  rw [← List.append_assoc, length] at start
  rw [List.length_append, length] at stop
  rw [range, Range.ofOffsets, start, Excerpt.stop, stop]

/-- A place that an excerpt touches cuts it in two. -/
theorem exists_cut (stands : excerpt.StandsBehind text before) (plain : '\n' ∉ excerpt.text)
    {position : Position} (touches : (excerpt.range text).Touches position) :
    ∃ part rest, excerpt.text = part ++ rest ∧ position = .behind (before ++ part) := by
  have notBefore := touches.1
  have notBehind := touches.2
  rw [stands.range_eq] at notBefore notBehind
  rw [Position.behind_append_of_plain plain] at notBehind
  rw [Position.not_lt_iff] at notBefore notBehind
  dsimp only at notBefore notBehind
  have line : position.line = (Position.behind before).line := by omega
  have column := notBefore.2 line
  have within := notBehind.2 line.symm
  have split := List.take_append_drop (position.character - (Position.behind before).character)
    excerpt.text
  refine ⟨_, _, split.symm, ?_⟩
  have plainPart : '\n' ∉ excerpt.text.take
      (position.character - (Position.behind before).character) :=
    fun feed => plain (List.mem_of_mem_take feed)
  rw [Position.behind_append_of_plain plainPart, List.length_take, Nat.min_eq_left (by omega),
    Nat.add_sub_cancel' column, ← line]

/-- The text around a place within an excerpt. -/
theorem eq_of_cut (stands : excerpt.StandsBehind text before) {part rest : Text}
    (cut : excerpt.text = part ++ rest) :
    text = (before ++ part) ++ (rest ++ text.drop excerpt.stop) := by
  have behind := stands.drop_start
  rw [cut, List.append_assoc] at behind
  rw [List.append_assoc, ← behind, stands.before_eq, List.take_append_drop]

/-! ## Tokens -/

/-- An excerpt is the token at every offset that it touches. -/
theorem tokenSpan_eq (stands : excerpt.StandsBehind text before) (some_ : excerpt.text ≠ [])
    (all : ∀ c ∈ excerpt.text, Text.isTokenChar c = true)
    (starts : before.getLast?.any Text.isTokenChar = false)
    (ends : (text.drop excerpt.stop).head?.any Text.isTokenChar = false) {part rest : Text}
    (cut : excerpt.text = part ++ rest) :
    text.tokenSpan (before ++ part).length = some (excerpt.start, excerpt.stop) := by
  have whole := stands.eq_of_cut cut
  rw [cut, List.forall_mem_append] at all
  have left : Text.tokenRun (before ++ part).reverse = part.length := by
    rw [List.reverse_append, Text.tokenRun_append_of_stops (by simpa using all.1) (by simpa using starts),
      List.length_reverse]
  have right := Text.tokenRun_append_of_stops all.2 ends
  have length : excerpt.text.length = part.length + rest.length := by rw [cut, List.length_append]
  have positive := List.length_pos_iff.mpr some_
  have start := stands.1
  have front : text.take (before ++ part).length = before ++ part := by
    rw [whole, List.take_left]
  have behind : text.drop (before ++ part).length = rest ++ text.drop excerpt.stop := by
    conv_lhs => rw [whole, List.drop_left]
  rw [Text.tokenSpan, front, behind, left, right]
  simp only [List.length_append, Excerpt.stop]
  rw [if_neg (by omega)]
  congr 2 <;> omega

end Excerpt.StandsBehind

end HomeConfig
