import HomeConfig.Text.Position
import HomeConfig.Text.Recogniser

/-!
# Offsets and positions

The position of an offset is told by what stands before the offset: the line is the number of line
feeds there, and the column is the length of what follows the last of them.  The position tells the
offset again.

So a range that was made from two offsets covers what stands between them.  The range of an excerpt
is exact: it covers the excerpt and nothing else, and if no line feed is in the excerpt, it lies on
one line.
-/

namespace HomeConfig

/-! ## Lines -/

/-- What follows the last line feed of a text. -/
def Text.lastLine : Text → Text
  | [] => []
  | c :: rest =>
    if '\n' ∈ rest then lastLine rest else if c = '\n' then rest else c :: rest

theorem Text.feed_notMem_lastLine (text : Text) : '\n' ∉ text.lastLine := by
  induction text with
  | nil => simp [lastLine]
  | cons c rest inductionHypothesis =>
    unfold lastLine
    split
    · exact inductionHypothesis
    · split
      · assumption
      · next none_ different => simp [none_, Ne.symm different]

theorem Text.lastLine_eq_self {text : Text} (plain : '\n' ∉ text) : lastLine text = text := by
  cases text with
  | nil => rfl
  | cons c rest =>
    simp only [List.mem_cons, not_or] at plain
    rw [lastLine, if_neg plain.2, if_neg (Ne.symm plain.1)]

theorem Text.lastLine_append_of_plain {part : Text} (plain : '\n' ∉ part) (text : Text) :
    lastLine (text ++ part) = text.lastLine ++ part := by
  induction text with
  | nil => exact lastLine_eq_self plain
  | cons c rest inductionHypothesis =>
    have feeds : '\n' ∈ rest ++ part ↔ '\n' ∈ rest := by simp [plain]
    rw [List.cons_append, lastLine, lastLine, inductionHypothesis]
    simp only [feeds]
    split
    · rfl
    · split <;> rfl

/-- A text is its whole lines, each with its line feed, and its last line. -/
theorem Text.exists_append_lastLine (text : Text) :
    ∃ ended, text = ended ++ text.lastLine ∧ (ended = [] ∨ ∃ lines, ended = lines ++ ['\n']) := by
  induction text with
  | nil => exact ⟨[], rfl, Or.inl rfl⟩
  | cons c rest inductionHypothesis =>
    unfold lastLine
    split
    next feeds =>
      rcases inductionHypothesis with ⟨ended, shape, rfl | ⟨lines, rfl⟩⟩
      · have none_ := feed_notMem_lastLine rest
        rw [← shape.trans (List.nil_append _)] at none_
        exact absurd feeds none_
      · refine ⟨c :: (lines ++ ['\n']), ?_, Or.inr ⟨c :: lines, rfl⟩⟩
        rw [List.cons_append, ← shape]
    next =>
      split
      next feed => exact ⟨['\n'], by rw [feed]; rfl, Or.inr ⟨[], rfl⟩⟩
      next => exact ⟨[], rfl, Or.inl rfl⟩

namespace Position

/-- The position of an offset is told by what stands before it. -/
theorem ofOffset_append (before after : Text) :
    ofOffset (before ++ after) before.length = ⟨before.count '\n', before.lastLine.length⟩ := by
  induction before with
  | nil => cases after <;> rfl
  | cons c rest inductionHypothesis =>
    simp only [List.cons_append, List.length_cons, ofOffset, inductionHypothesis, Text.lastLine]
    by_cases feeds : '\n' ∈ rest
    · have some_ : List.count '\n' rest ≠ 0 := by simpa [List.count_eq_zero] using feeds
      by_cases feed : c = '\n'
      · simp [feed, feeds]
      · simp [feed, feeds, some_]
    · have none_ : List.count '\n' rest = 0 := List.count_eq_zero.mpr feeds
      have whole : Text.lastLine rest = rest := Text.lastLine_eq_self feeds
      by_cases feed : c = '\n'
      · simp [feed, feeds, whole]
      · simp [feed, feeds, none_, whole]

theorem toOffset_ofOffset {text : Text} {offset : Nat} (inside : offset ≤ text.length) :
    (ofOffset text offset).toOffset text = offset := by
  induction text generalizing offset with
  | nil =>
    have zero : offset = 0 := by simpa using inside
    rw [zero]
    rfl
  | cons c rest inductionHypothesis =>
    cases offset with
    | zero => simp [ofOffset, toOffset]
    | succ offset =>
      have before := inductionHypothesis (Nat.le_of_succ_le_succ inside)
      generalize position : ofOffset rest offset = after at before
      obtain ⟨line, column⟩ := after
      simp only [ofOffset, position]
      by_cases feed : c = '\n'
      · simp [feed, toOffset, before]
      · cases line with
        | zero => simp [feed, toOffset, before]
        | succ line => simp [feed, toOffset, before]

end Position

/-! ## Ranges -/

namespace Range

/-- A range covers an offset of a text. -/
def Covers (text : Text) (range : Range) (offset : Nat) : Prop :=
  range.start.toOffset text ≤ offset ∧ offset < range.stop.toOffset text

instance (text : Text) (range : Range) (offset : Nat) : Decidable (range.Covers text offset) :=
  inferInstanceAs (Decidable (_ ∧ _))

/-- What a range covers of a text. -/
def slice (text : Text) (range : Range) : Text :=
  (text.take (range.stop.toOffset text)).drop (range.start.toOffset text)

end Range

/-! ## Excerpts -/

namespace Excerpt

/-- An excerpt stands in a text at the offset that it claims, behind the text given. -/
def StandsBehind (text before : Text) (excerpt : Excerpt) : Prop :=
  before.length = excerpt.start ∧ before ++ excerpt.text <+: text

/-- The range of an excerpt of a text. -/
def range (text : Text) (excerpt : Excerpt) : Range :=
  .ofOffsets text excerpt.start excerpt.stop

namespace StandsBehind

variable {text before : Text} {excerpt : Excerpt}

theorem stop_le (stands : excerpt.StandsBehind text before) : excerpt.stop ≤ text.length := by
  have length := stands.2.length_le
  rw [List.length_append, stands.1] at length
  exact length

theorem before_eq (stands : excerpt.StandsBehind text before) :
    before = text.take excerpt.start := by
  rcases stands with ⟨length, after, rfl⟩
  rw [← length, List.append_assoc, List.take_left]

theorem toOffset_start (stands : excerpt.StandsBehind text before) :
    (excerpt.range text).start.toOffset text = excerpt.start := by
  have inside := stands.stop_le
  exact Position.toOffset_ofOffset (by unfold stop at inside; omega)

theorem toOffset_stop (stands : excerpt.StandsBehind text before) :
    (excerpt.range text).stop.toOffset text = excerpt.stop :=
  Position.toOffset_ofOffset stands.stop_le

/-- From where an excerpt stands, the text goes on with it and with what follows it. -/
theorem drop_start (stands : excerpt.StandsBehind text before) :
    text.drop excerpt.start = excerpt.text ++ text.drop excerpt.stop := by
  rcases stands with ⟨length, after, rfl⟩
  have stop : excerpt.stop = (before ++ excerpt.text).length := by
    rw [List.length_append, length]
    rfl
  rw [stop, List.drop_left, ← length, List.append_assoc, List.drop_left]

/-- Cut from the text, an excerpt is given back. -/
theorem cut_eq (stands : excerpt.StandsBehind text before) :
    (text.take excerpt.stop).drop excerpt.start = excerpt.text := by
  rcases stands with ⟨length, after, rfl⟩
  have stop : excerpt.stop = (before ++ excerpt.text).length := by
    rw [List.length_append, length]
    rfl
  rw [stop, List.take_left, ← length, List.drop_left]

theorem slice_range (stands : excerpt.StandsBehind text before) :
    (excerpt.range text).slice text = excerpt.text := by
  rw [Range.slice, stands.toOffset_start, stands.toOffset_stop, stands.cut_eq]

theorem covers_range_iff (stands : excerpt.StandsBehind text before) (offset : Nat) :
    (excerpt.range text).Covers text offset ↔ excerpt.start ≤ offset ∧ offset < excerpt.stop := by
  rw [Range.Covers, stands.toOffset_start, stands.toOffset_stop]

/-- An excerpt without a line feed lies on one line. -/
theorem line_range (stands : excerpt.StandsBehind text before) (plain : '\n' ∉ excerpt.text) :
    (excerpt.range text).start.line = (excerpt.range text).stop.line := by
  rcases stands with ⟨length, after, rfl⟩
  have start : (excerpt.range (before ++ excerpt.text ++ after)).start.line = before.count '\n' := by
    rw [range, Range.ofOffsets, ← length, List.append_assoc, Position.ofOffset_append]
  have stop : (excerpt.range (before ++ excerpt.text ++ after)).stop.line =
      (before ++ excerpt.text).count '\n' := by
    have offset : excerpt.stop = (before ++ excerpt.text).length := by
      rw [List.length_append, length]
      rfl
    rw [range, Range.ofOffsets, offset, Position.ofOffset_append]
  rw [start, stop, List.count_append, List.count_eq_zero.mpr plain, Nat.add_zero]

end StandsBehind

end Excerpt

end HomeConfig
