import HomeConfig.Editor.Change
import HomeConfig.Proofs.Text.Position

/-!
# Changes at the places of a document

A document counts the place of an offset in characters, on lines that end at line feeds.  An editor
counts in units of two bytes, on lines that end at every line break.  Where the two countings agree,
a change of the range of an excerpt replaces the excerpt and leaves everything else as it is.

They agree if the text before the excerpt has no line break but line feeds, each with or without a
carriage return in front of it, and if no character of two units stands before the excerpt on its
line.
-/

namespace HomeConfig

namespace Change

/-! ## Lines -/

/-- Whether every line break of a text is a line feed, or a carriage return in front of one. -/
def breaksAtFeeds : Text → Bool
  | [] => true
  | c :: rest =>
    (!isLineBreak c || c == '\n' || c == '\r' && rest.head? == some '\n') && breaksAtFeeds rest

theorem breaksAtFeeds_cons {c : Char} {rest : Text} (feeds : breaksAtFeeds (c :: rest) = true) :
    (isLineBreak c = true → c = '\n' ∨ c = '\r' ∧ rest.head? = some '\n') ∧
      breaksAtFeeds rest = true := by
  simp only [breaksAtFeeds, Bool.and_eq_true, Bool.or_eq_true, Bool.not_eq_true', beq_iff_eq] at feeds
  refine ⟨fun break_ => ?_, feeds.2⟩
  simpa [break_] using feeds.1

theorem breaksAtFeeds_append_feed (text rest : Text) : breaksAtFeeds (text ++ '\n' :: rest) =
    (breaksAtFeeds (text ++ ['\n']) && breaksAtFeeds rest) := by
  induction text with
  | nil => simp [breaksAtFeeds]
  | cons c text inductionHypothesis =>
    have next : (text ++ '\n' :: rest).head? = (text ++ ['\n']).head? := by
      cases text <;> rfl
    rw [List.cons_append, List.cons_append, breaksAtFeeds, breaksAtFeeds, inductionHypothesis, next,
      Bool.and_assoc]

/-- Without line feeds there are no line breaks at all. -/
theorem not_isLineBreak_of_breaksAtFeeds {text : Text} (feeds : breaksAtFeeds text = true)
    (none_ : '\n' ∉ text) : ∀ c ∈ text, isLineBreak c = false := by
  induction text with
  | nil => exact nofun
  | cons c rest inductionHypothesis =>
    rcases breaksAtFeeds_cons feeds with ⟨kinds, others⟩
    simp only [List.mem_cons, not_or] at none_
    refine List.forall_mem_cons.mpr ⟨?_, inductionHypothesis others none_.2⟩
    cases break_ : isLineBreak c with
    | false => rfl
    | true =>
      rcases kinds break_ with rfl | ⟨_, fed⟩
      · exact absurd rfl none_.1
      · exact absurd (List.mem_of_mem_head? fed) none_.2

theorem lines_carriage (rest : Text) : lines ('\r' :: '\n' :: rest) = ['\r', '\n'] :: lines rest :=
  rfl

theorem lines_cons {c : Char} {rest : Text} (single : c = '\r' → rest.head? ≠ some '\n') :
    lines (c :: rest) = if isLineBreak c then [c] :: lines rest else extend c (lines rest) := by
  generalize shape : c :: rest = text
  fun_cases lines text with
  | case1 => cases shape
  | case2 others =>
    cases shape
    exact absurd rfl (single rfl)
  | case3 d others _ isBreak =>
    cases shape
    rw [if_pos isBreak]
  | case4 d others _ notBreak =>
    cases shape
    rw [if_neg notBreak]

theorem lines_ne_nil {text : Text} (some_ : text ≠ []) : lines text ≠ [] := by
  intro none_
  have whole := flatten_lines text
  rw [none_] at whole
  exact some_ whole.symm

theorem extend_append (c : Char) {first : List Text} (some_ : first ≠ []) (others : List Text) :
    extend c (first ++ others) = extend c first ++ others := by
  cases first with
  | nil => exact absurd rfl some_
  | cons line rest => rfl

theorem length_extend (c : Char) {lines : List Text} (some_ : lines ≠ []) :
    (extend c lines).length = lines.length := by
  cases lines with
  | nil => exact absurd rfl some_
  | cons line rest => rfl

/-- A line feed ends a line, and another one starts behind it. -/
theorem lines_append_feed (text rest : Text) :
    lines (text ++ '\n' :: rest) = lines (text ++ ['\n']) ++ lines rest := by
  induction text using lines.induct with
  | case1 => exact lines_cons fun carriage => absurd carriage (by decide)
  | case2 text inductionHypothesis =>
    simp only [List.cons_append, lines_carriage, inductionHypothesis]
  | case3 c text notFed isBreak inductionHypothesis =>
    by_cases last : c = '\r' ∧ text = []
    · rw [last.1, last.2]
      exact lines_carriage rest
    -- Any other carriage return here stands alone, whatever follows the line feed.
    · have single (others : Text) (carriage : c = '\r') :
          (text ++ '\n' :: others).head? ≠ some '\n' := by
        cases text with
        | nil => exact absurd ⟨carriage, rfl⟩ last
        | cons d text =>
          rintro ⟨rfl⟩
          exact notFed text carriage rfl
      rw [List.cons_append, List.cons_append, lines_cons (single rest), lines_cons (single []),
        if_pos isBreak, if_pos isBreak, inductionHypothesis, List.cons_append]
  | case4 c text notFed notBreak inductionHypothesis =>
    have single (others : Text) (carriage : c = '\r') :
        (text ++ '\n' :: others).head? ≠ some '\n' := by
      rw [carriage] at notBreak
      exact absurd (by decide) notBreak
    rw [List.cons_append, List.cons_append, lines_cons (single rest), lines_cons (single []),
      if_neg notBreak, if_neg notBreak, inductionHypothesis]
    exact extend_append c (lines_ne_nil (by simp)) (lines rest)

/-- A text that breaks at line feeds has as many lines as line feeds, if it ends in one. -/
theorem length_lines_append_feed {text : Text} (feeds : breaksAtFeeds (text ++ ['\n']) = true) :
    (lines (text ++ ['\n'])).length = (text ++ ['\n']).count '\n' := by
  induction text using lines.induct with
  | case1 => rfl
  | case2 text inductionHypothesis =>
    have rest := (breaksAtFeeds_cons (breaksAtFeeds_cons feeds).2).2
    have length := inductionHypothesis rest
    simp only [List.cons_append, lines_carriage, List.length_cons, length]
    simp
  | case3 c text notFed isBreak inductionHypothesis =>
    rcases breaksAtFeeds_cons feeds with ⟨kinds, rest⟩
    rcases kinds isBreak with rfl | ⟨rfl, fed⟩
    · have length := inductionHypothesis rest
      rw [List.cons_append, lines_cons fun carriage => absurd carriage (by decide), if_pos isBreak]
      simp [length]
    · cases text with
      | nil => rfl
      | cons d text =>
        cases fed
        exact absurd rfl (notFed text rfl)
  | case4 c text notFed notBreak inductionHypothesis =>
    rcases breaksAtFeeds_cons feeds with ⟨_, rest⟩
    have length := inductionHypothesis rest
    have single (carriage : c = '\r') : (text ++ ['\n']).head? ≠ some '\n' := by
      rw [carriage] at notBreak
      exact absurd (by decide) notBreak
    have different : c ≠ '\n' := by
      rintro rfl
      exact absurd (by decide) notBreak
    rw [List.cons_append, lines_cons single, if_neg notBreak,
      length_extend c (lines_ne_nil (by simp)), length, List.count_cons_of_ne different]

/-- Characters that break no line stand on one line, with what follows on it. -/
theorem lines_append_of_plain {part : Text} (some_ : part ≠ [])
    (plain : ∀ c ∈ part, isLineBreak c = false) (rest : Text) :
    ∃ tail others, lines (part ++ rest) = (part ++ tail) :: others ∧
      rest = tail ++ others.flatten := by
  induction part with
  | nil => exact absurd rfl some_
  | cons c part inductionHypothesis =>
    rcases List.forall_mem_cons.mp plain with ⟨here, there⟩
    have single (carriage : c = '\r') : (part ++ rest).head? ≠ some '\n' := by
      rw [carriage] at here
      exact absurd here (by decide)
    rw [List.cons_append, lines_cons single, if_neg (by simp [here])]
    cases part with
    | nil =>
      have whole := flatten_lines rest
      rw [List.nil_append]
      cases split : lines rest with
      | nil =>
        rw [split] at whole
        exact ⟨[], [], rfl, whole.symm⟩
      | cons line others =>
        rw [split] at whole
        exact ⟨line, others, rfl, whole.symm⟩
    | cons d part =>
      rcases inductionHypothesis (by simp) there with ⟨tail, others, split, whole⟩
      exact ⟨tail, others, by rw [split]; rfl, whole⟩

/-! ## Columns -/

theorem unify_append_of_plain {part : Text} (plain : ∀ c ∈ part, isLineBreak c = false)
    (rest : Text) : unify (part ++ rest) = part ++ unify rest := by
  induction part with
  | nil => rfl
  | cons c part inductionHypothesis =>
    rcases List.forall_mem_cons.mp plain with ⟨here, there⟩
    rw [List.cons_append, unify, inductionHypothesis there, List.cons_append]
    rintro others rfl _
    exact absurd here (by decide)

theorem length_le_units (part rest : Text) : part.length ≤ units (part ++ rest) := by
  induction part with
  | nil => exact Nat.zero_le _
  | cons c part inductionHypothesis =>
    have wide : 1 ≤ width c := by
      unfold width
      split <;> decide
    simp only [units, List.cons_append, List.foldr_cons, List.length_cons] at inductionHypothesis ⊢
    omega

theorem charactersFor_of_narrow {part : Text} (narrow : ∀ c ∈ part, width c = 1) {column : Nat}
    (inside : column ≤ part.length) (rest : Text) : charactersFor (part ++ rest) column = column := by
  induction part generalizing column with
  | nil =>
    have zero : column = 0 := by simpa using inside
    rw [zero]
    cases rest with
    | nil => rfl
    | cons c rest => rfl
  | cons c part inductionHypothesis =>
    rcases List.forall_mem_cons.mp narrow with ⟨here, there⟩
    rw [List.cons_append, charactersFor, here]
    split
    next zero => exact zero.symm
    next positive =>
      rw [List.length_cons] at inside
      rw [inductionHypothesis there (by omega)]
      omega

/-- A column among characters of one unit is the number of characters before it. -/
theorem columnIn_of_narrow {part : Text} (plain : ∀ c ∈ part, isLineBreak c = false)
    (narrow : ∀ c ∈ part, width c = 1) {column : Nat} (inside : column ≤ part.length) (rest : Text) :
    columnIn (part ++ rest) column = column := by
  have reached := length_le_units part (unify rest)
  rw [columnIn, unify_append_of_plain plain, if_neg (by omega)]
  exact charactersFor_of_narrow narrow inside (unify rest)

/-! ## Replacing -/

section

variable {start stop : Position} {text : Text} {number : Nat}

theorem replaceLines_before {earlier : List Text} (before : number + earlier.length ≤ start.line)
    (rest : List Text) : replaceLines start stop text number (earlier ++ rest) =
      earlier.flatten ++ replaceLines start stop text (number + earlier.length) rest := by
  induction earlier generalizing number with
  | nil => rfl
  | cons line earlier inductionHypothesis =>
    rw [List.length_cons] at before ⊢
    rw [List.cons_append, replaceLines, if_pos (Or.inl (by omega)),
      inductionHypothesis (by omega), List.flatten_cons, List.append_assoc]
    congr 3
    omega

theorem replaceLines_behind (behind : stop.line < number) (later : List Text) :
    replaceLines start stop text number later = later.flatten := by
  induction later generalizing number with
  | nil => rfl
  | cons line later inductionHypothesis =>
    rw [replaceLines, if_pos (Or.inr behind), inductionHypothesis (by omega), List.flatten_cons]

end

/-- What becomes of a document when a part of one of its lines is changed. -/
theorem replaceLines_part (earlier later : List Text) (before name tail replacement : Text) :
    replaceLines ⟨earlier.length, before.length⟩ ⟨earlier.length, (before ++ name).length⟩
        replacement 0 (earlier ++ (before ++ name ++ tail) :: later) =
      earlier.flatten ++ (before ++ replacement ++ tail) ++ later.flatten := by
  rw [replaceLines_before (by simp), replaceLines, if_neg (by simp),
    replaceLines_behind (by simp)]
  simp

/-! ## Whole lines -/

section

variable {ended : Text} (ends : ended = [] ∨ ∃ text, ended = text ++ ['\n'])

include ends

theorem lines_append_of_ended (rest : Text) : lines (ended ++ rest) = lines ended ++ lines rest := by
  rcases ends with rfl | ⟨text, rfl⟩
  · rfl
  · rw [List.append_assoc, List.singleton_append, lines_append_feed]

theorem breaksAtFeeds_append_of_ended (rest : Text) :
    breaksAtFeeds (ended ++ rest) = (breaksAtFeeds ended && breaksAtFeeds rest) := by
  rcases ends with rfl | ⟨text, rfl⟩
  · rfl
  · rw [List.append_assoc, List.singleton_append, breaksAtFeeds_append_feed]

theorem length_lines_of_ended (feeds : breaksAtFeeds ended = true) :
    (lines ended).length = ended.count '\n' := by
  rcases ends with rfl | ⟨text, rfl⟩
  · rfl
  · exact length_lines_append_feed feeds

end

/-- A column among characters of one unit, on a line that breaks behind them, is found. -/
theorem locate_of_narrow {part : Text} (plain : ∀ c ∈ part, isLineBreak c = false)
    (narrow : ∀ c ∈ part, width c = 1) (column : Nat) (inside : column ≤ part.length)
    (earlier later : List Text) (tail : Text) :
    locate (earlier ++ (part ++ tail) :: later) ⟨earlier.length, column⟩ =
      ⟨earlier.length, column⟩ := by
  have line : (earlier ++ (part ++ tail) :: later)[earlier.length]? = some (part ++ tail) := by simp
  simp only [locate, line, columnIn_of_narrow plain narrow inside]

/-- A change of the range of a name replaces the name, where an editor and the document count its
place alike. -/
theorem apply_part_range {before name : Text} (some_ : name ≠ [])
    (plainName : ∀ c ∈ name, isLineBreak c = false) (narrowName : ∀ c ∈ name, width c = 1)
    (feeds : breaksAtFeeds before = true) (narrow : ∀ c ∈ before.lastLine, width c = 1)
    (after replacement : Text) :
    apply (before ++ name ++ after)
        (.part ((⟨before.length, name⟩ : Excerpt).range (before ++ name ++ after)) replacement) =
      before ++ replacement ++ after := by
  have feedless : '\n' ∉ name := fun feed => absurd (plainName _ feed) (by decide)
  have start : Position.ofOffset (before ++ name ++ after) before.length =
      ⟨before.count '\n', before.lastLine.length⟩ := by
    rw [List.append_assoc, Position.ofOffset_append]
  have stop : Position.ofOffset (before ++ name ++ after) (before ++ name).length =
      ⟨before.count '\n', (before.lastLine ++ name).length⟩ := by
    rw [Position.ofOffset_append, List.count_append, List.count_eq_zero.mpr feedless, Nat.add_zero,
      Text.lastLine_append_of_plain feedless]
  rcases Text.exists_append_lastLine before with ⟨ended, whole, ends⟩
  have feedlessLine := Text.feed_notMem_lastLine before
  generalize before.lastLine = line at whole narrow feedlessLine start stop
  -- The name stands on a line of its own document and of the editor's, which begin alike.
  have both : breaksAtFeeds ended = true ∧ breaksAtFeeds line = true := by
    rw [whole, breaksAtFeeds_append_of_ended ends] at feeds
    exact Bool.and_eq_true_iff.mp feeds
  have number : before.count '\n' = (lines ended).length := by
    rw [whole, List.count_append, List.count_eq_zero.mpr feedlessLine, Nat.add_zero,
      length_lines_of_ended ends both.1]
  have plain : ∀ c ∈ line ++ name, isLineBreak c = false := List.forall_mem_append.mpr
    ⟨not_isLineBreak_of_breaksAtFeeds both.2 feedlessLine, plainName⟩
  have narrowPart : ∀ c ∈ line ++ name, width c = 1 :=
    List.forall_mem_append.mpr ⟨narrow, narrowName⟩
  rcases lines_append_of_plain (List.append_ne_nil_of_right_ne_nil line some_) plain after with
    ⟨tail, later, split, rest⟩
  have all : lines (before ++ name ++ after) =
      lines ended ++ (line ++ name ++ tail) :: later := by
    rw [whole, List.append_assoc, List.append_assoc, lines_append_of_ended ends,
      ← List.append_assoc line, split]
  have first := locate_of_narrow plain narrowPart line.length (by simp) (lines ended) later tail
  have last := locate_of_narrow plain narrowPart _ (Nat.le_refl _) (lines ended) later tail
  have notEmpty : (lines ended).length ≠ (lines ended ++ (line ++ name ++ tail) :: later).length := by
    simp
  simp only [apply, Excerpt.range, Range.ofOffsets, Excerpt.stop, ← List.length_append, start, stop,
    number, all, first, last, if_neg notEmpty]
  rw [replaceLines_part, flatten_lines, whole, rest]
  simp only [List.append_assoc]

end Change

end HomeConfig
