import HomeConfig.Proofs.Text.Offset

/-!
# Lines that are put together

A text is its lines with a line feed between every two of them.  It can be cut in front of any line:
the lines above, each with its line feed (`Text.ended`), are followed by the text of the others.  A
line is followed by its line feed, or it is the last one and nothing follows it (`Text.EndedBy`).
-/

namespace HomeConfig

namespace Text

variable {line : Text} {lines above more : List Text}

/-- The text of some lines, each with its line feed. -/
def ended (lines : List Text) : Text :=
  lines.flatMap (· ++ ['\n'])

theorem ended_append (above more : List Text) : ended (above ++ more) = ended above ++ ended more :=
  List.flatMap_append

/-- What stands behind a line is a line feed, or the end of the text. -/
inductive EndedBy : Text → Text → Prop
  | feed (rest : Text) : EndedBy ['\n'] rest
  | text : EndedBy [] []

theorem EndedBy.stops {feed rest : Text} (ends : EndedBy feed rest) {accepts : Char → Bool}
    (refused : accepts '\n' = false) : (feed ++ rest).head?.any accepts = false := by
  cases ends with
  | feed rest => exact refused
  | text => rfl

theorem intercalate_cons (line : Text) (more : List Text) :
    ∃ feed, ['\n'].intercalate (line :: more) = line ++ (feed ++ ['\n'].intercalate more) ∧
      EndedBy feed (['\n'].intercalate more) ∧ (more ≠ [] → feed = ['\n']) := by
  cases more with
  | nil => exact ⟨[], by simp, .text, absurd rfl⟩
  | cons second more => exact ⟨['\n'], by simp, .feed _, fun _ => rfl⟩

theorem intercalate_append (some_ : more ≠ []) (above : List Text) :
    ['\n'].intercalate (above ++ more) = ended above ++ ['\n'].intercalate more := by
  induction above with
  | nil => rfl
  | cons line above inductionHypothesis =>
    cases shape : above ++ more with
    | nil => exact absurd (List.append_eq_nil_iff.mp shape).2 some_
    | cons second others =>
      rw [shape] at inductionHypothesis
      rw [List.cons_append, shape, List.intercalate_cons_cons, inductionHypothesis]
      simp [ended]

theorem length_le_intercalate (solid : ∀ line ∈ above, line ≠ []) (more : List Text) :
    above.length ≤ (['\n'].intercalate (above ++ more)).length := by
  induction above with
  | nil => exact Nat.zero_le _
  | cons line above inductionHypothesis =>
    rw [List.forall_mem_cons] at solid
    rcases intercalate_cons line (above ++ more) with ⟨feed, shape, _⟩
    have first := List.length_pos_iff.mpr solid.1
    have others := inductionHypothesis solid.2
    rw [List.cons_append, shape, List.length_append, List.length_append, List.length_cons]
    omega

theorem intercalate_lines (text : Text) : ['\n'].intercalate (Text.lines text) = text := by
  induction text with
  | nil => rfl
  | cons c rest inductionHypothesis =>
    cases shape : Text.lines rest with
    | nil => exact absurd shape (lines_ne_nil rest)
    | cons first others =>
      rw [shape] at inductionHypothesis
      by_cases feed : c = '\n'
      · rw [feed, lines_newline, shape, List.intercalate_cons_cons, inductionHypothesis]
        rfl
      · rw [lines_cons_of_ne feed shape, ← inductionHypothesis]
        cases others <;> simp

theorem feed_notMem_of_mem_lines {text : Text} (member : line ∈ Text.lines text) : '\n' ∉ line := by
  induction text generalizing line with
  | nil => simp_all [Text.lines]
  | cons c rest inductionHypothesis =>
    cases shape : Text.lines rest with
    | nil => exact absurd shape (lines_ne_nil rest)
    | cons first others =>
      rw [shape] at inductionHypothesis
      by_cases feed : c = '\n'
      · rw [feed, lines_newline, shape] at member
        rcases List.mem_cons.mp member with rfl | later
        · exact List.not_mem_nil
        · exact inductionHypothesis later
      · rw [lines_cons_of_ne feed shape] at member
        rcases List.mem_cons.mp member with rfl | later
        · simpa [Ne.symm feed] using inductionHypothesis (List.mem_cons_self ..)
        · exact inductionHypothesis (List.mem_cons_of_mem _ later)

theorem count_ended (plain : ∀ line ∈ lines, '\n' ∉ line) :
    (ended lines).count '\n' = lines.length := by
  induction lines with
  | nil => rfl
  | cons line lines inductionHypothesis =>
    rw [List.forall_mem_cons] at plain
    have shape : ended (line :: lines) = line ++ '\n' :: ended lines := by simp [ended]
    rw [shape, List.count_append, List.count_eq_zero.mpr plain.1, List.count_cons_self,
      inductionHypothesis plain.2, Nat.zero_add, List.length_cons]

theorem lastLine_ended (lines : List Text) : (ended lines).lastLine = [] := by
  rcases List.eq_nil_or_concat' lines with rfl | ⟨others, line, rfl⟩
  · rfl
  · have shape : ended (others ++ [line]) = (ended others ++ line) ++ ['\n'] := by simp [ended]
    rw [shape, lastLine_append_feed]

/-- Behind some lines a place is on the next line. -/
theorem behind_ended_append (plain : ∀ line ∈ lines, '\n' ∉ line) {part : Text}
    (plainPart : '\n' ∉ part) :
    Position.behind (ended lines ++ part) = ⟨lines.length, part.length⟩ := by
  rw [Position.behind_append_of_plain plainPart, Position.behind, count_ended plain, lastLine_ended,
    List.length_nil, Nat.zero_add]

end Text

end HomeConfig
