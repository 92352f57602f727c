import HomeConfig.Document.Template
import HomeConfig.Proofs.Text.Part

/-!
# Open expressions

Whether a cursor stands inside an expression is asked in two places.  A completion asks whether an
expression that was opened in front of the cursor has not been closed.  A hover asks for the
expression itself; it finds none if any closing brace, even a single one, stands between the last
opening and the cursor.

Both questions are answered here by what stands behind the last opening (`LastOpen`): a text without
two closing braces side by side, or a text without any.  So what is shown is completed as well, but
not the other way round.  The two agree unless the open expression has a closing brace by itself, as
a dictionary has one (`shown_where_completed_iff`).
-/

namespace HomeConfig

namespace Text

variable {text part : Text} {c : Char}

/-! ## The last place of a part -/

theorem lastIndex?_eq_none_iff (some_ : part ≠ []) :
    lastIndex? part text = none ↔ ¬ part <:+: text := by
  induction text with
  | nil => simp [lastIndex?, some_]
  | cons d rest inductionHypothesis =>
    rw [List.infix_cons_iff, not_or, ← inductionHypothesis, ← startsWith_iff, lastIndex?]
    cases lastIndex? part rest with
    | some found => simp
    | none => simp

/-- A part is found last where it stands and does not begin anew behind its first character. -/
theorem lastIndex?_eq_some_iff {place : Nat} :
    lastIndex? (c :: part) text = some place ↔
      ∃ front behind, text = front ++ c :: part ++ behind ∧ front.length = place ∧
        ¬ c :: part <:+: part ++ behind := by
  constructor
  · intro last
    induction text generalizing place with
    | nil => cases last
    | cons d rest inductionHypothesis =>
      rw [lastIndex?] at last
      cases later : lastIndex? (c :: part) rest with
      | some found =>
        rw [later] at last
        cases last
        rcases inductionHypothesis later with ⟨front, behind, rfl, rfl, nowhere⟩
        exact ⟨d :: front, behind, rfl, rfl, nowhere⟩
      | none =>
        simp only [later] at last
        split at last
        next starts =>
          cases last
          rcases (startsWith_iff _ _).mp starts with ⟨behind, shape⟩
          refine ⟨[], behind, shape.symm, rfl, ?_⟩
          have others : part ++ behind = rest := (List.cons.inj shape).2
          rw [others]
          exact (lastIndex?_eq_none_iff (List.cons_ne_nil _ _)).mp later
        next => cases last
  · rintro ⟨front, behind, rfl, rfl, nowhere⟩
    induction front with
    | nil =>
      have later : lastIndex? (c :: part) (part ++ behind) = none :=
        (lastIndex?_eq_none_iff (List.cons_ne_nil _ _)).mpr nowhere
      have starts : startsWith (c :: part) (c :: (part ++ behind)) = true :=
        (startsWith_iff _ _).mpr (List.prefix_append _ _)
      simp [lastIndex?, later, starts]
    | cons d front inductionHypothesis =>
      rw [List.cons_append, List.cons_append, lastIndex?, inductionHypothesis]
      rfl

end Text

namespace Document

variable {text behind : Text} {offset : Nat}

/-! ## What stands behind the last opening -/

/-- A text ends with its last opening and what stands behind it. -/
def LastOpen (text behind : Text) : Prop :=
  ∃ front, text = front ++ opening ++ behind ∧ ¬ opening <:+: '\x7b' :: behind

theorem drop_opening (front behind : Text) :
    (front ++ opening ++ behind).drop (front.length + 2) = behind := by
  have length : front.length + 2 = (front ++ opening).length := by
    rw [List.length_append]
    rfl
  rw [length, List.drop_left]

/-- The place where an opening is found last tells what stands behind it, and is told by it. -/
theorem lastOpen_iff : LastOpen text behind ↔
    ∃ place, Text.lastIndex? opening text = some place ∧ text.drop (place + 2) = behind := by
  constructor
  · rintro ⟨front, rfl, nowhere⟩
    have found : Text.lastIndex? opening (front ++ opening ++ behind) = some front.length :=
      Text.lastIndex?_eq_some_iff.mpr ⟨front, behind, rfl, rfl, nowhere⟩
    exact ⟨front.length, found, drop_opening front behind⟩
  · rintro ⟨place, found, rfl⟩
    rcases Text.lastIndex?_eq_some_iff.mp found with ⟨front, behind, shape, rfl, nowhere⟩
    have parts : text = front ++ opening ++ behind := shape
    rw [parts, drop_opening]
    exact ⟨front, rfl, nowhere⟩

theorem LastOpen.unique {other : Text} (last : LastOpen text behind) (again : LastOpen text other) :
    behind = other := by
  rcases lastOpen_iff.mp last with ⟨place, found, rfl⟩
  rcases lastOpen_iff.mp again with ⟨same, foundAgain, rfl⟩
  cases found.symm.trans foundAgain
  rfl

theorem exists_lastOpen_iff {holds : Text → Prop} (last : LastOpen text behind) :
    (∃ other, LastOpen text other ∧ holds other) ↔ holds behind := by
  constructor
  · rintro ⟨other, again, held⟩
    rwa [last.unique again]
  · exact fun held => ⟨behind, last, held⟩

/-! ## Closing braces -/

/-- The last closing comes before an opening just when none stands behind the opening. -/
theorem closes_before_iff {front earlier later : Text}
    (parts : front ++ opening ++ behind = earlier ++ closing ++ later)
    (last : ¬ closing <:+: '\x7d' :: later) :
    earlier.length < front.length ↔ ¬ closing <:+: behind := by
  have lengths := congrArg List.length parts
  simp only [List.length_append, opening, closing, List.length_cons, List.length_nil] at lengths
  constructor
  · intro before stands
    have inner : behind <:+ '\x7d' :: later := by
      apply List.suffix_of_suffix_length_le (List.suffix_append (front ++ opening) behind)
      · rw [parts, List.append_assoc]
        exact (List.suffix_cons _ _).trans (List.suffix_append _ _)
      · rw [List.length_cons]
        omega
    exact last (stands.trans inner.isInfix)
  · intro absent
    by_contra order
    have inner : closing ++ later <:+ opening ++ behind := by
      have ends : closing ++ later <:+ earlier ++ closing ++ later := by
        rw [List.append_assoc]
        exact List.suffix_append _ _
      apply List.suffix_of_suffix_length_le ends
      · rw [← parts, List.append_assoc]
        exact List.suffix_append _ _
      · simp only [List.length_append, opening, closing, List.length_cons, List.length_nil]
        omega
    -- No closing brace is an opening one, so what closes stands behind both opening braces.
    have behindFirst : closing ++ later <:+ '\x7b' :: behind :=
      (List.suffix_cons_iff.mp inner).resolve_left (by simp [closing])
    have behindBoth : closing ++ later <:+ behind :=
      (List.suffix_cons_iff.mp behindFirst).resolve_left (by simp [closing])
    exact absent ((List.prefix_append closing later).isInfix.trans behindBoth.isInfix)

/-- An expression is open where no two closing braces stand behind the last opening. -/
theorem isInsideTemplate_iff :
    isInsideTemplate text = true ↔ ∃ behind, LastOpen text behind ∧ ¬ closing <:+: behind := by
  unfold isInsideTemplate
  cases opened : Text.lastIndex? opening text with
  | none => simp [lastOpen_iff, opened]
  | some place =>
    rw [exists_lastOpen_iff (lastOpen_iff.mpr ⟨place, opened, rfl⟩)]
    rcases Text.lastIndex?_eq_some_iff.mp opened with ⟨front, behind, shape, rfl, _⟩
    have parts : text = front ++ opening ++ behind := shape
    rw [parts, drop_opening]
    cases closed : Text.lastIndex? closing (front ++ opening ++ behind) with
    | none =>
      have absent := (Text.lastIndex?_eq_none_iff (by decide)).mp closed
      have nowhere : ¬ closing <:+: behind :=
        fun stands => absent (stands.trans (List.suffix_append _ _).isInfix)
      simp [nowhere]
    | some last =>
      rcases Text.lastIndex?_eq_some_iff.mp closed with ⟨earlier, later, shape, rfl, notLater⟩
      rw [decide_eq_true_eq]
      exact closes_before_iff shape notLater

/-- An expression is shown where no closing brace at all stands behind the last opening, if it is
closed at all. -/
theorem isSome_enclosingTemplate_iff (closes : closing <:+: text.drop offset) :
    (enclosingTemplate text offset).isSome = true ↔
      ∃ behind, LastOpen (text.take offset) behind ∧ '\x7d' ∉ behind := by
  unfold enclosingTemplate
  cases opened : Text.lastIndex? opening (text.take offset) with
  | none => simp [lastOpen_iff, opened]
  | some place =>
    rw [exists_lastOpen_iff (lastOpen_iff.mpr ⟨place, opened, rfl⟩)]
    rcases Option.isSome_iff_exists.mp ((Text.contains_iff _ _).mpr closes) with ⟨closed, found⟩
    by_cases brace : '\x7d' ∈ (text.take offset).drop (place + 2)
    · simp [opened, brace]
    · simp [opened, brace, found]

/-- The expression that was opened last has a closing brace, but no two of them side by side. -/
def HasLoneBrace (text : Text) : Prop :=
  ∃ behind, LastOpen text behind ∧ '\x7d' ∈ behind ∧ ¬ closing <:+: behind

theorem closing_infix_mem (stands : closing <:+: behind) : '\x7d' ∈ behind :=
  stands.subset (List.mem_cons_self ..)

/-- Let an expression be closed at or after an offset.  If it is shown there, completions take the
offset to be inside it.  The converse holds, and with it the agreement of the two, unless the
expression has a closing brace by itself in front of the offset. -/
theorem shown_where_completed_iff (text : Text) (offset : Nat)
    (closes : closing <:+: text.drop offset) :
    let before := text.take offset
    ((enclosingTemplate text offset).isSome = true → isInsideTemplate before = true) ∧
      (((enclosingTemplate text offset).isSome = true ↔ isInsideTemplate before = true) ↔
        ¬ HasLoneBrace before) := by
  intro before
  rw [isSome_enclosingTemplate_iff closes, isInsideTemplate_iff]
  have shown : (∃ behind, LastOpen before behind ∧ '\x7d' ∉ behind) →
      ∃ behind, LastOpen before behind ∧ ¬ closing <:+: behind := by
    rintro ⟨behind, last, plain⟩
    exact ⟨behind, last, fun stands => plain (closing_infix_mem stands)⟩
  refine ⟨shown, ?_⟩
  constructor
  · rintro agree ⟨behind, last, brace, open_⟩
    rcases agree.mpr ⟨behind, last, open_⟩ with ⟨other, again, plain⟩
    rw [last.unique again] at brace
    exact plain brace
  · intro noBrace
    refine ⟨shown, ?_⟩
    rintro ⟨behind, last, open_⟩
    by_contra hidden
    apply noBrace
    refine ⟨behind, last, ?_, open_⟩
    by_contra plain
    exact hidden ⟨behind, last, plain⟩

theorem second_expression_is_shown_and_completed :
    let text := "\x7b\x7b now() \x7d\x7d \x7b\x7b states('light.attic') \x7d\x7d".toList
    closing <:+: text.drop 20 ∧ ¬ HasLoneBrace (text.take 20) ∧
      enclosingTemplate text 20 = some (text.drop 12) := by
  intro text
  have closes : closing <:+: text.drop 20 := by decide
  have both : (enclosingTemplate text 20).isSome = true ↔ isInsideTemplate (text.take 20) = true :=
    iff_of_true (by decide) (by decide)
  exact ⟨closes, (shown_where_completed_iff text 20 closes).2.mp both, by decide⟩

/-- Behind a dictionary in an expression there is something to complete, but nothing is shown. -/
theorem dictionary_hides_its_expression :
    let text := "\x7b\x7b \x7b'a': 1\x7d.a \x7d\x7d".toList
    '\n' ∉ text ∧ 12 ≤ text.length ∧ closing <:+: text.drop 12 ∧
      isInsideTemplate (text.take 12) = true ∧ enclosingTemplate text 12 = none := by
  decide

end Document

end HomeConfig
