import HomeConfig.Proofs.Text.Offset
import HomeConfig.Yaml.Tokenise

/-!
# Where marks stand

A mark and a position count the same characters by different rules.  A mark goes to a new line at
five characters, a position only at a line feed; a position counts a byte order mark as a column, a
mark does not.  So a mark is the position of its place just as far as these rules agree: its line
is ahead by the breaks that are no line feeds (`foreignBreaks`), and if there are none in front of
it, its column is behind by the byte order marks of its line.

A carriage return in front of a line feed ends no line of its own for either of them.  Whether a
carriage return is such a one is told by the character behind it, so the breaks of a part of a text
are counted with what follows the part.
-/

namespace HomeConfig

namespace Yaml

/-! ## Breaks that end no line of the document -/

/-- A character that ends a line for a mark but not for a position, given the one behind it. -/
def isForeignBreak (c next : Char) : Bool :=
  isBreak c && !(c == '\r' && next == '\n') && c != '\n'

/-- How many such breaks the front of a text has. -/
def foreignBreaks : (front rest : Text) → Nat
  | [], _ => 0
  | c :: front, rest =>
    foreignBreaks front rest +
      if isForeignBreak c ((front ++ rest).headD endOfText) then 1 else 0

namespace Mark

theorem offset_after (mark : Mark) (c next : Char) :
    (mark.after c next).offset = mark.offset + 1 := by
  unfold after
  split_ifs <;> rfl

theorem after_feed (mark : Mark) (next : Char) :
    mark.after '\n' next = ⟨mark.offset + 1, mark.line + 1, 0⟩ := by
  simp [after, isBreak]

theorem after_foreign {c next : Char} (foreign : isForeignBreak c next = true) (mark : Mark) :
    mark.after c next = ⟨mark.offset + 1, mark.line + 1, 0⟩ := by
  simp only [isForeignBreak, Bool.and_eq_true] at foreign
  rw [after, if_pos (by simp [foreign.1])]

/-- Any other character leaves the line as it is; all of them but the byte order mark take a
column. -/
theorem after_other {c next : Char} (different : c ≠ '\n') (own : isForeignBreak c next = false)
    (mark : Mark) :
    mark.after c next =
      ⟨mark.offset + 1, mark.line, mark.column + if c = '\ufeff' then 0 else 1⟩ := by
  have inside : ¬(isBreak c && !(c == '\r' && next == '\n')) = true := by
    simpa [isForeignBreak, different] using own
  rw [after, if_neg inside]
  by_cases wide : c = '\ufeff' <;> simp [wide]

end Mark

/-! ## Marks on the way through a text -/

namespace Reading

@[simp]
theorem passed_nil (count : Nat) (mark : Mark) : passed count mark [] = (mark, []) := by
  cases count <;> rfl

/-- Two stretches are passed one after the other. -/
theorem passed_add (first second : Nat) (mark : Mark) (text : Text) :
    passed (first + second) mark text =
      passed second (passed first mark text).1 (passed first mark text).2 := by
  induction first generalizing mark text with
  | zero => simp [passed]
  | succ first inductionHypothesis =>
    cases text with
    | nil => simp
    | cons c rest =>
      rw [Nat.succ_add]
      exact inductionHypothesis (mark.after c (rest.headD endOfText)) rest

theorem passed_rest (count : Nat) (mark : Mark) (text : Text) :
    (passed count mark text).2 = text.drop count := by
  induction count generalizing mark text with
  | zero => rfl
  | succ count inductionHypothesis =>
    cases text with
    | nil => rfl
    | cons c rest => exact inductionHypothesis _ rest

/-- Behind the end of a text nothing more is passed. -/
theorem passed_min (count : Nat) (mark : Mark) (text : Text) :
    passed (min count text.length) mark text = passed count mark text := by
  induction count generalizing mark text with
  | zero => simp
  | succ count inductionHypothesis =>
    cases text with
    | nil => simp
    | cons c rest =>
      rw [List.length_cons, Nat.succ_min_succ]
      exact inductionHypothesis _ rest

theorem offset_passed (front rest : Text) (mark : Mark) :
    (passed front.length mark (front ++ rest)).1.offset = mark.offset + front.length := by
  induction front generalizing mark with
  | nil => rfl
  | cons c front inductionHypothesis =>
    rw [List.length_cons, List.cons_append, passed, inductionHypothesis, Mark.offset_after]
    omega

/-- The line of a mark behind the front of a text. -/
theorem line_passed (front rest : Text) (mark : Mark) :
    (passed front.length mark (front ++ rest)).1.line =
      mark.line + front.count '\n' + foreignBreaks front rest := by
  induction front generalizing mark with
  | nil => rfl
  | cons c front inductionHypothesis =>
    rw [List.length_cons, List.cons_append, passed, inductionHypothesis, foreignBreaks,
      List.count_cons]
    by_cases feed : c = '\n'
    · have own : isForeignBreak '\n' ((front ++ rest).headD endOfText) = false := by
        simp [isForeignBreak]
      subst feed
      rw [Mark.after_feed, own]
      simp
      omega
    · cases foreign : isForeignBreak c ((front ++ rest).headD endOfText) with
      | true =>
        rw [Mark.after_foreign foreign]
        simp [feed]
        omega
      | false =>
        rw [Mark.after_other feed foreign]
        simp [feed]

/-- The column of a mark behind the front of a text, if the front has no foreign breaks: every
character of the last line but the byte order marks takes one. -/
theorem column_passed {front rest : Text} (own : foreignBreaks front rest = 0) (mark : Mark) :
    (passed front.length mark (front ++ rest)).1.column + front.lastLine.count '\ufeff' =
      (if '\n' ∈ front then 0 else mark.column) + front.lastLine.length := by
  induction front generalizing mark with
  | nil => simp [passed, Text.lastLine]
  | cons c front inductionHypothesis =>
    simp only [foreignBreaks, Nat.add_eq_zero_iff] at own
    have stays : isForeignBreak c ((front ++ rest).headD endOfText) = false := by
      simpa using own.2
    have later := inductionHypothesis own.1 (mark.after c ((front ++ rest).headD endOfText))
    rw [List.length_cons, List.cons_append, passed, Text.lastLine]
    by_cases feeds : '\n' ∈ front
    · simpa [feeds] using later
    · rw [if_neg feeds, Text.lastLine_eq_self feeds] at later
      by_cases feed : c = '\n'
      · subst feed
        simpa [feeds, Mark.after_feed] using later
      · rw [Mark.after_other feed stays] at later
        rw [if_neg feeds, if_neg feed, if_neg (by simp [feeds, Ne.symm feed]), List.count_cons,
          List.length_cons, Mark.after_other feed stays]
        by_cases wide : c = '\ufeff'
        · simp only [wide, beq_self_eq_true, if_true] at later ⊢
          omega
        · simp only [wide, beq_iff_eq, if_false] at later ⊢
          omega

end Reading

/-! ## Marks of a text -/

/-- A mark of a text: it is met when the text is read from its start. -/
def Mark.Within (text : Text) (mark : Mark) : Prop :=
  ∃ count, (Reading.passed count Mark.start text).1 = mark

namespace Mark.Within

variable {text : Text} {mark : Mark}

theorem start (text : Text) : Mark.start.Within text :=
  ⟨0, rfl⟩

/-- A mark of a text is the one behind as many characters as it says. -/
theorem eq_passed (within : mark.Within text) :
    mark.offset ≤ text.length ∧
      mark = (Reading.passed (text.take mark.offset).length Mark.start
        (text.take mark.offset ++ text.drop mark.offset)).1 := by
  rcases within with ⟨count, rfl⟩
  have offset : (Reading.passed count Mark.start text).1.offset = min count text.length := by
    have parts := Reading.offset_passed (text.take count) (text.drop count) Mark.start
    rw [List.take_append_drop, List.length_take, Reading.passed_min] at parts
    rw [parts, Mark.start, Nat.zero_add]
  have inside : min count text.length ≤ text.length := Nat.min_le_right _ _
  rw [offset, List.take_append_drop, List.length_take, Nat.min_eq_left inside, Reading.passed_min]
  exact ⟨inside, rfl⟩

/-- A mark is the position of its offset, but for foreign breaks and byte order marks in front of
it. -/
theorem position (within : mark.Within text) :
    let front : Text := text.take mark.offset
    let place := Position.ofOffset text mark.offset
    mark.line = place.line + foreignBreaks front (text.drop mark.offset) ∧
      (foreignBreaks front (text.drop mark.offset) = 0 →
        mark.column + front.lastLine.count '\ufeff' = place.character) := by
  intro front place
  have here := within.eq_passed.2
  rw [show place = Position.behind front from Position.ofOffset_eq_behind text mark.offset]
  refine ⟨?_, fun own => ?_⟩
  · rw [congrArg Mark.line here, Reading.line_passed]
    simp [Mark.start, Position.behind, front]
  · rw [congrArg Mark.column here, Reading.column_passed own]
    simp [Mark.start, Position.behind, front]

end Mark.Within

end Yaml

/-! ## Positions of a document -/

namespace Position

theorem line_ofOffset_lt (text : Text) (offset : Nat) :
    (ofOffset text offset).line < (Text.lines text).length := by
  have inside := line_behind_lt (text.take offset) (text.drop offset)
  rwa [List.take_append_drop, ← ofOffset_eq_behind] at inside

theorem character_ofOffset_le (text : Text) (offset : Nat) :
    (ofOffset text offset).character ≤
      (Text.lineAt text (ofOffset text offset).line).length := by
  cases shape : Text.lines (text.drop offset) with
  | nil => exact absurd shape (Text.lines_ne_nil _)
  | cons first others =>
    have line := Text.lineAt_behind (text.take offset) shape
    rw [List.take_append_drop] at line
    rw [ofOffset_eq_behind, line, List.length_append, behind]
    exact Nat.le_add_right _ _

end Position

end HomeConfig
