import HomeConfig.Proofs.Text.Line

/-!
# Lines and rows of Markdown

A text that is shown as Markdown is read line by line, and a row of a table cell by cell.  A
carriage return ends a line there as a line feed does, and a bar ends a cell, unless a backslash
stands in front of it; then the bar is a part of the cell, and the backslash is not.

A text that is to stand in a cell as it is must therefore do without line breaks and bars.  Without
line breaks it keeps to its line (`length_lines_eq_one_iff`), and cells without bars are what is
read from their row (`isRow_row_iff`).  With a bar it is lost whether or not a backslash precedes:
either there are more cells than were written, or a character is missing.
-/

namespace HomeConfig

namespace Markdown

variable {text cell : Text} {cells : List Text}

/-! ## Lines -/

/-- The lines of a text. -/
def lines (text : Text) : List Text :=
  Text.lines (Text.unifyBreaks text)

/-- A text without line breaks. -/
def OnOneLine (text : Text) : Prop :=
  '\n' ∉ text ∧ '\r' ∉ text

instance (text : Text) : Decidable (OnOneLine text) :=
  inferInstanceAs (Decidable (_ ∧ _))

/-- A carriage return without a line feed behind it is written as one. -/
theorem unifyBreaks_return (alone : text.head? ≠ some '\n') :
    Text.unifyBreaks ('\r' :: text) = '\n' :: Text.unifyBreaks text := by
  rw [Text.unifyBreaks]
  rintro rest rfl
  exact alone rfl

theorem unifyBreaks_of_ne {c : Char} (other : c ≠ '\r') (text : Text) :
    Text.unifyBreaks (c :: text) = c :: Text.unifyBreaks text := by
  rw [Text.unifyBreaks]
  · exact fun _ same => absurd same other
  · exact other

theorem feed_mem_unifyBreaks (text : Text) :
    '\n' ∈ Text.unifyBreaks text ↔ ¬ OnOneLine text := by
  fun_induction Text.unifyBreaks text with
  | case1 => simp [OnOneLine]
  | case2 rest inductionHypothesis => simp [OnOneLine]
  | case3 rest _ inductionHypothesis => simp [OnOneLine]
  | case4 c rest _ other inductionHypothesis =>
    have noReturn : '\r' ≠ c := fun same => other same.symm
    by_cases feed : '\n' = c
    · simp [OnOneLine, ← feed]
    · simp only [OnOneLine, List.mem_cons, feed, noReturn, false_or]
      exact inductionHypothesis

theorem unifyBreaks_append_feed (ends : text.getLast? ≠ some '\r') (rest : Text) :
    Text.unifyBreaks (text ++ '\n' :: rest) =
      Text.unifyBreaks text ++ '\n' :: Text.unifyBreaks rest := by
  fun_induction Text.unifyBreaks text with
  | case1 => exact unifyBreaks_of_ne (by decide) rest
  | case2 others inductionHypothesis =>
    have later : others.getLast? ≠ some '\r' :=
      fun last => ends (by simp [List.getLast?_cons, last])
    exact congrArg ('\n' :: ·) (inductionHypothesis later)
  | case3 others alone inductionHypothesis =>
    cases others with
    | nil => exact absurd rfl ends
    | cons d others =>
      have later : (d :: others).getLast? ≠ some '\r' := ends
      have solid : (d :: others ++ '\n' :: rest).head? ≠ some '\n' := fun first =>
        alone others (by rw [Option.some.inj first])
      rw [List.cons_append, unifyBreaks_return solid, inductionHypothesis later]
      rfl
  | case4 c others _ other inductionHypothesis =>
    have later : others.getLast? ≠ some '\r' :=
      fun last => ends (by simp [List.getLast?_cons, last])
    rw [List.cons_append, unifyBreaks_of_ne other, inductionHypothesis later]
    rfl

theorem lines_append_feed (ends : text.getLast? ≠ some '\r') (rest : Text) :
    lines (text ++ '\n' :: rest) = lines text ++ lines rest := by
  rw [lines, unifyBreaks_append_feed ends, Text.lines_append_feed]
  rfl

theorem length_lines (text : Text) :
    (lines text).length = (Text.unifyBreaks text).count '\n' + 1 := by
  rw [← Text.length_endedLines, Text.endedLines, List.length_dropLast, lines]
  have some_ := List.length_pos_iff.mpr (Text.lines_ne_nil (Text.unifyBreaks text))
  omega

theorem length_lines_eq_one_iff (text : Text) : (lines text).length = 1 ↔ OnOneLine text := by
  rw [length_lines, Nat.add_eq_right, List.count_eq_zero, feed_mem_unifyBreaks,
    Classical.not_not]

theorem unifyBreaks_of_notMem (noReturn : '\r' ∉ text) : Text.unifyBreaks text = text := by
  induction text with
  | nil => rfl
  | cons c rest inductionHypothesis =>
    rw [List.mem_cons, not_or] at noReturn
    rw [unifyBreaks_of_ne (Ne.symm noReturn.1), inductionHypothesis noReturn.2]

theorem lines_of_onOneLine (line : OnOneLine text) : lines text = [text] := by
  rw [lines, unifyBreaks_of_notMem line.2, Text.lines_of_plain line.1]

/-! ## Rows -/

/-- A character in front of what has been read. -/
def prepend (c : Char) : List Text → List Text
  | [] => [[c]]
  | first :: others => (c :: first) :: others

/-- The fields between the bars of a line. -/
def fields : Text → List Text
  | [] => [[]]
  | '\\' :: '|' :: rest => prepend '|' (fields rest)
  | '|' :: rest => [] :: fields rest
  | c :: rest => prepend c (fields rest)

/-- A cell with the blanks at its sides. -/
def padded (cell : Text) : Text :=
  ' ' :: cell ++ [' ']

/-- A line is a row of some cells: there is a bar at each end and one between two cells, and blanks
between bars and cells. -/
def IsRow (line : Text) (cells : List Text) : Prop :=
  fields line = [] :: cells.map padded ++ [[]]

instance (line : Text) (cells : List Text) : Decidable (IsRow line cells) :=
  inferInstanceAs (Decidable (_ = _))

/-- A row that is written for some cells. -/
def row (cells : List Text) : Text :=
  '|' :: cells.flatMap fun cell => padded cell ++ ['|']

theorem fields_ne_nil (text : Text) : fields text ≠ [] := by
  have prepended (c : Char) (others : List Text) : prepend c others ≠ [] := by
    cases others <;> simp [prepend]
  fun_cases fields text with
  | case1 => exact List.cons_ne_nil _ _
  | case2 rest => exact prepended _ _
  | case3 rest => exact List.cons_ne_nil _ _
  | case4 c rest => exact prepended _ _

/-- Every character of a line ends a field, belongs to one, or is a backslash for a bar that belongs
to one. -/
theorem length_fields (text : Text) :
    (fields text).flatten.length + (fields text).flatten.count '|' + (fields text).length =
      text.length + 1 := by
  have prepended (c : Char) (text : Text) :
      (prepend c (fields text)).flatten = c :: (fields text).flatten ∧
        (prepend c (fields text)).length = (fields text).length := by
    cases shape : fields text with
    | nil => exact absurd shape (fields_ne_nil text)
    | cons first others => exact ⟨rfl, rfl⟩
  fun_induction fields text with
  | case1 => rfl
  | case2 rest inductionHypothesis =>
    rcases prepended '|' rest with ⟨flatten, length⟩
    rw [flatten, length, List.count_cons_self]
    simp only [List.length_cons]
    omega
  | case3 rest inductionHypothesis =>
    simp only [List.flatten_cons, List.nil_append, List.length_cons]
    omega
  | case4 c rest _ notBar inductionHypothesis =>
    rcases prepended c rest with ⟨flatten, length⟩
    rw [flatten, length, List.count_cons_of_ne fun same => notBar same]
    simp only [List.length_cons]
    omega

theorem fields_bar (rest : Text) : fields ('|' :: rest) = [] :: fields rest := by
  rw [fields]

theorem fields_cons {c : Char} (notBar : c ≠ '|') (noBar : text.head? ≠ some '|') :
    fields (c :: text) = prepend c (fields text) := by
  rw [fields]
  · rintro rest - rfl
    exact noBar rfl
  · exact notBar

/-- A cell without bars is read up to the bar behind it. -/
theorem fields_append_bar (plain : '|' ∉ cell) (rest : Text) :
    fields (cell ++ ' ' :: '|' :: rest) = (cell ++ [' ']) :: fields rest := by
  have blank : fields (' ' :: '|' :: rest) = [' '] :: fields rest := by
    rw [fields, fields_bar, prepend]
    · exact fun _ same => absurd same (by decide)
    · decide
  induction cell with
  | nil => exact blank
  | cons c cell inductionHypothesis =>
    rw [List.mem_cons, not_or] at plain
    have noBar : (cell ++ ' ' :: '|' :: rest).head? ≠ some '|' := by
      cases cell with
      | nil => exact fun same => absurd (Option.some.inj same) (by decide)
      | cons d cell => exact fun same => plain.2 (by simp [Option.some.inj same])
    rw [List.cons_append, fields_cons (Ne.symm plain.1) noBar, inductionHypothesis plain.2]
    rfl

theorem fields_row (plain : ∀ cell ∈ cells, '|' ∉ cell) :
    fields (row cells) = [] :: cells.map padded ++ [[]] := by
  rw [row, fields_bar]
  refine congrArg ([] :: ·) ?_
  induction cells with
  | nil => rfl
  | cons cell cells inductionHypothesis =>
    rw [List.forall_mem_cons] at plain
    have shape : (cell :: cells).flatMap (fun cell => padded cell ++ ['|']) =
        ' ' :: cell ++ ' ' :: '|' :: cells.flatMap fun cell => padded cell ++ ['|'] := by
      simp [padded]
    have noBar : '|' ∉ ' ' :: cell := by simp [plain.1]
    rw [shape, fields_append_bar noBar, inductionHypothesis plain.2]
    rfl

theorem length_row (cells : List Text) :
    (row cells).length = (cells.map padded).flatten.length + cells.length + 1 := by
  induction cells with
  | nil => rfl
  | cons cell cells inductionHypothesis =>
    simp only [row, List.length_cons, List.flatMap_cons, List.length_append, List.map_cons,
      List.flatten_cons, List.length_nil] at inductionHypothesis ⊢
    omega

theorem getLast?_row (cells : List Text) : (row cells).getLast? = some '|' := by
  rcases List.eq_nil_or_concat cells with rfl | ⟨others, cell, rfl⟩
  · rfl
  · have ends : row (others ++ [cell]) =
        ('|' :: others.flatMap fun cell => padded cell ++ ['|']) ++ padded cell ++ ['|'] := by
      simp [row]
    rw [List.concat_eq_append, ends, List.getLast?_concat]

theorem mem_row {c : Char} (notBlank : c ≠ ' ') (notBar : c ≠ '|') :
    c ∈ row cells ↔ ∃ cell ∈ cells, c ∈ cell := by
  simp [row, padded, notBlank, notBar]

/-- A row keeps to its line if its cells do. -/
theorem onOneLine_row_iff : OnOneLine (row cells) ↔ ∀ cell ∈ cells, OnOneLine cell := by
  rw [OnOneLine, mem_row (by decide) (by decide), mem_row (by decide) (by decide)]
  simp only [OnOneLine, not_exists, not_and]
  exact ⟨fun both cell member => ⟨both.1 cell member, both.2 cell member⟩,
    fun all => ⟨fun cell member => (all cell member).1, fun cell member => (all cell member).2⟩⟩

/-- What is read from a row is what was written, unless that had bars. -/
theorem isRow_row_iff : IsRow (row cells) cells ↔ ∀ cell ∈ cells, '|' ∉ cell := by
  constructor
  · intro isRow cell member bar
    have counted := length_fields (row cells)
    rw [show fields (row cells) = [] :: cells.map padded ++ [[]] from isRow, length_row] at counted
    have inside : '|' ∈ ([] :: cells.map padded ++ [[]]).flatten :=
      List.mem_flatten.mpr
        ⟨padded cell, by simp [List.mem_map_of_mem member], by simp [padded, bar]⟩
    have some_ := List.count_pos_iff.mpr inside
    simp only [List.flatten_append, List.flatten_cons, List.flatten_nil, List.nil_append,
      List.append_nil, List.length_append, List.length_cons, List.length_map, List.length_nil]
      at counted some_
    omega
  · exact fields_row

end Markdown

end HomeConfig
