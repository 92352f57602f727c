import HomeConfig.Proofs.Text.Position

/-!
# Lines in front of a place

What stands in front of a place of a text is some lines that have ended there and the start of one
more.  Whatever follows the place, the ended lines are the first lines of the text, and the line of
the place begins with what has been started.

So whatever reads only the lines above a place, and its own line up to the place, does not depend on
what follows.
-/

namespace HomeConfig

namespace Text

variable {text part rest first : Text} {others : List Text}

/-! ## Lines of a text that is put together -/

theorem lines_cons_of_ne {c : Char} (different : c ≠ '\n') (shape : lines rest = first :: others) :
    lines (c :: rest) = (c :: first) :: others := by
  simp [lines, shape, different]

theorem lines_append_of_plain (plain : '\n' ∉ part) (shape : lines rest = first :: others) :
    lines (part ++ rest) = (part ++ first) :: others := by
  induction part with
  | nil => exact shape
  | cons c part inductionHypothesis =>
    simp only [List.mem_cons, not_or] at plain
    exact lines_cons_of_ne (Ne.symm plain.1) (inductionHypothesis plain.2)

theorem lines_of_plain (plain : '\n' ∉ text) : lines text = [text] := by
  have nothing : lines [] = [[]] := rfl
  have whole := lines_append_of_plain plain nothing
  rwa [List.append_nil] at whole

theorem lines_append_feed (text rest : Text) :
    lines (text ++ '\n' :: rest) = lines text ++ lines rest := by
  induction text with
  | nil => exact lines_newline rest
  | cons c text inductionHypothesis =>
    cases shape : lines text with
    | nil => exact absurd shape (lines_ne_nil text)
    | cons first others =>
      rw [shape] at inductionHypothesis
      by_cases feed : c = '\n'
      · subst feed
        rw [List.cons_append, lines_newline, lines_newline, inductionHypothesis, shape]
        rfl
      · rw [List.cons_append, lines_cons_of_ne feed inductionHypothesis, lines_cons_of_ne feed shape]
        rfl

theorem lines_intercalate (plain : ∀ line ∈ first :: others, '\n' ∉ line) :
    lines (['\n'].intercalate (first :: others)) = first :: others := by
  induction others generalizing first with
  | nil =>
    rw [List.intercalate_singleton]
    exact lines_of_plain (plain first (by simp))
  | cons second others inductionHypothesis =>
    rw [List.forall_mem_cons] at plain
    rw [List.intercalate_cons_cons, List.append_assoc, List.singleton_append, lines_append_feed,
      lines_of_plain plain.1, inductionHypothesis plain.2]
    rfl

/-! ## Lines that have ended -/

/-- The lines of a text that have ended, without their line feeds. -/
def endedLines (text : Text) : List Text :=
  (lines text).dropLast

/-- A text has no line that has ended, or its last line stands behind the line feed of the others. -/
theorem endedLines_spec (text : Text) :
    '\n' ∉ text ∧ text.lastLine = text ∧ text.endedLines = [] ∨
      ∃ earlier, text = earlier ++ '\n' :: text.lastLine ∧ text.endedLines = lines earlier := by
  have last := feed_notMem_lastLine text
  rcases exists_append_lastLine text with ⟨ended, shape, rfl | ⟨earlier, rfl⟩⟩
  · left
    rw [← shape.trans (List.nil_append _)] at last
    refine ⟨last, lastLine_eq_self last, ?_⟩
    rw [endedLines, lines_of_plain last]
    rfl
  · right
    rw [List.append_assoc, List.singleton_append] at shape
    refine ⟨earlier, shape, ?_⟩
    have pieces := lines_append_feed earlier text.lastLine
    rw [← shape, lines_of_plain last] at pieces
    rw [endedLines, pieces, List.dropLast_concat]

/-- What follows a text changes only its last line, and adds lines behind it. -/
theorem lines_append (text : Text) (shape : lines rest = first :: others) :
    lines (text ++ rest) = text.endedLines ++ (text.lastLine ++ first) :: others := by
  have last := feed_notMem_lastLine text
  rcases endedLines_spec text with ⟨plain, whole, none_⟩ | ⟨earlier, pieces, ended⟩
  · rw [whole, none_, lines_append_of_plain plain shape]
    rfl
  · have longer : text ++ rest = earlier ++ '\n' :: (text.lastLine ++ rest) := by
      rw [← List.cons_append, ← List.append_assoc, ← pieces]
    rw [longer, lines_append_feed, lines_append_of_plain last shape, ended]

theorem endedLines_append_of_plain (plain : '\n' ∉ part) (text : Text) :
    (text ++ part).endedLines = text.endedLines := by
  rw [endedLines, lines_append text (lines_of_plain plain), List.dropLast_concat]

theorem length_endedLines (text : Text) : text.endedLines.length = text.count '\n' := by
  have feeds (text : Text) : (lines text).length = text.count '\n' + 1 := by
    induction text with
    | nil => rfl
    | cons c rest inductionHypothesis =>
      cases shape : lines rest with
      | nil => exact absurd shape (lines_ne_nil rest)
      | cons first others =>
        rw [shape] at inductionHypothesis
        by_cases feed : c = '\n'
        · subst feed
          rw [lines_newline, shape, List.length_cons, inductionHypothesis, List.count_cons_self]
        · rw [lines_cons_of_ne feed shape, List.count_cons_of_ne feed, ← inductionHypothesis]
          rfl
  rw [endedLines, List.length_dropLast, feeds, Nat.add_sub_cancel]

theorem lineAt_natCast (text : Text) (line : Nat) :
    lineAt text line = (lines text)[line]?.getD [] := by
  rw [lineAt, if_neg (by omega), Int.toNat_natCast]

end Text

/-! ## The end of a text as a place -/

namespace Position

/-- The position behind a text, whatever follows it. -/
def behind (text : Text) : Position :=
  ⟨text.count '\n', text.lastLine.length⟩

theorem ofOffset_length (text rest : Text) :
    ofOffset (text ++ rest) text.length = behind text :=
  ofOffset_append text rest

theorem toOffset_behind (text rest : Text) :
    (behind text).toOffset (text ++ rest) = text.length := by
  rw [← ofOffset_length text rest]
  exact toOffset_ofOffset (by simp)

theorem behind_feed (text : Text) :
    behind ('\n' :: text) = ⟨(behind text).line + 1, (behind text).character⟩ := by
  have last : Text.lastLine ('\n' :: text) = text.lastLine := by
    rw [Text.lastLine]
    split
    · rfl
    · next plain => rw [if_pos rfl, Text.lastLine_eq_self plain]
  simp [behind, last]

theorem behind_cons {c : Char} (different : c ≠ '\n') (text : Text) :
    behind (c :: text) = ⟨(behind text).line,
      (behind text).character + if (behind text).line = 0 then 1 else 0⟩ := by
  by_cases feeds : '\n' ∈ text
  · have some_ : text.count '\n' ≠ 0 := by simpa [List.count_eq_zero] using feeds
    simp [behind, Text.lastLine, feeds, different, some_]
  · have none_ : text.count '\n' = 0 := List.count_eq_zero.mpr feeds
    simp [behind, Text.lastLine, feeds, different, none_, Text.lastLine_eq_self feeds]

/-- A place within a line is the place behind some part of the text. -/
theorem exists_behind {text : Text} {place : Position}
    (inside : place.line < (Text.lines text).length)
    (within : place.character ≤ (Text.lineAt text place.line).length) :
    ∃ before rest, text = before ++ rest ∧ behind before = place := by
  obtain ⟨line, column⟩ := place
  simp only [Text.lineAt_natCast] at inside within
  induction text generalizing line column with
  | nil =>
    have first : line = 0 := by simpa [Text.lines] using inside
    subst first
    have none_ : column = 0 := by simpa [Text.lines] using within
    subst none_
    exact ⟨[], [], rfl, rfl⟩
  | cons c text inductionHypothesis =>
    by_cases feed : c = '\n'
    · subst feed
      rw [Text.lines_newline] at inside within
      cases line with
      | zero =>
        have none_ : column = 0 := by simpa using within
        subst none_
        exact ⟨[], _, rfl, rfl⟩
      | succ line =>
        rcases inductionHypothesis line column (by simpa using inside) (by simpa using within) with
          ⟨before, rest, rfl, place⟩
        exact ⟨'\n' :: before, rest, rfl, by rw [behind_feed, place]⟩
    · cases shape : Text.lines text with
      | nil => exact absurd shape (Text.lines_ne_nil text)
      | cons first others =>
        rw [Text.lines_cons_of_ne feed shape] at inside within
        rw [shape] at inductionHypothesis
        cases line with
        | succ line =>
          rcases inductionHypothesis _ _ inside within with ⟨before, rest, rfl, place⟩
          exact ⟨c :: before, rest, rfl, by rw [behind_cons feed, place]; rfl⟩
        | zero =>
          cases column with
          | zero => exact ⟨[], _, rfl, rfl⟩
          | succ column =>
            rcases inductionHypothesis _ _ inside (Nat.le_of_succ_le_succ within) with
              ⟨before, rest, rfl, place⟩
            exact ⟨c :: before, rest, rfl, by rw [behind_cons feed, place]; rfl⟩

end Position

namespace Text

theorem lineAt_behind (text : Text) (shape : lines rest = first :: others) :
    lineAt (text ++ rest) (Position.behind text).line = text.lastLine ++ first := by
  have number := length_endedLines text
  rw [lineAt_natCast, lines_append text shape, Position.behind, ← number,
    List.getElem?_append_right (Nat.le_refl _), Nat.sub_self]
  rfl

/-- The line of the place behind a text, up to the place, is the last line of the text. -/
theorem before_lineAt_behind (text rest : Text) :
    before (lineAt (text ++ rest) (Position.behind text).line) (Position.behind text).character =
      text.lastLine := by
  cases shape : lines rest with
  | nil => exact absurd shape (lines_ne_nil rest)
  | cons first others =>
    have inside : text.lastLine.length ≤ (text.lastLine ++ first).length := by
      rw [List.length_append]
      exact Nat.le_add_right _ _
    rw [lineAt_behind text shape, before, Position.behind, bound_of_le inside, List.take_left]

/-- What follows a place on its line begins as what follows it in the text, if a line feed does not
count. -/
theorem head?_drop_lineAt_behind {accepts : Char → Bool} (feed : accepts '\n' = false)
    (text rest : Text) :
    ((lineAt (text ++ rest) (Position.behind text).line).drop
        (Position.behind text).character).head?.any accepts =
      rest.head?.any accepts := by
  cases shape : lines rest with
  | nil => exact absurd shape (lines_ne_nil rest)
  | cons first others =>
    rw [lineAt_behind text shape, Position.behind, List.drop_left]
    cases rest with
    | nil =>
      cases shape
      rfl
    | cons c rest =>
      by_cases isFeed : c = '\n'
      · subst isFeed
        rw [lines_newline] at shape
        cases shape
        exact feed.symm
      · cases later : lines rest with
        | nil => exact absurd later (lines_ne_nil rest)
        | cons second others =>
          cases (lines_cons_of_ne isFeed later).symm.trans shape
          rfl

/-- The lines above the place behind a text are the lines of the text that have ended. -/
theorem take_lines_behind (text rest : Text) :
    (lines (text ++ rest)).take (Position.behind text).line = text.endedLines := by
  cases shape : lines rest with
  | nil => exact absurd shape (lines_ne_nil rest)
  | cons first others =>
    rw [lines_append text shape, Position.behind, ← length_endedLines, List.take_left]

end Text

end HomeConfig
