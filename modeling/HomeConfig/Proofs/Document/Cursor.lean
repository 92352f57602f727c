import HomeConfig.Proofs.Document.Enclosing
import HomeConfig.Proofs.Text.Line
import HomeConfig.Proofs.Text.Part

/-!
# The context behind a text

The context of a cursor is read off the lines above the cursor and its own line up to the cursor.
So it is told by what stands in front of the cursor, whatever follows.

When more of a name is typed, the context stays the one that it was, but for what has been typed:
a character of a name neither ends a key, nor opens or closes a template, nor indents a line
(`Context.Grows`).
-/

namespace HomeConfig

namespace Context

/-- The context at the end of the first of two texts that make up a document. -/
def between (front rest : Text) : Context :=
  ofCursor (front ++ rest) (Position.behind front).line (Position.behind front).character

variable {front more : Text}

theorem lineBefore_between (front rest : Text) :
    (between front rest).lineBefore = front.lastLine :=
  Text.before_lineAt_behind front rest

theorem key_between (front rest : Text) :
    (between front rest).key = (beforeSeparator? none front.lastLine).map keyOf := by
  rw [← lineBefore_between front rest]
  rfl

theorem inValue_between (front rest : Text) :
    (between front rest).inValue = (beforeSeparator? none front.lastLine).isSome := by
  rw [← lineBefore_between front rest]
  rfl

theorem inTemplate_between (front rest : Text) :
    (between front rest).inTemplate = Document.isInsideTemplate front.lastLine := by
  rw [← lineBefore_between front rest]
  rfl

theorem parentKeys_between (front rest : Text) :
    (between front rest).parentKeys =
      (enclosingFrom (indentOf front.lastLine) front.endedLines.reverse).reverse := by
  rw [← Text.take_lines_behind front rest, ← lineBefore_between front rest]
  rfl

/-! ## Enclosing keys -/

theorem inTrigger_eq_of_parentKeys {context other : Context}
    (same : context.parentKeys = other.parentKeys) : context.inTrigger = other.inTrigger := by
  rw [inTrigger, same, inTrigger]

theorem inAction_eq_of_parentKeys {context other : Context}
    (same : context.parentKeys = other.parentKeys) : context.inAction = other.inAction := by
  rw [inAction, same, inAction]

/-! ## Typing on -/

theorem beforeSeparator?_eq_none (noColon : ':' ∉ more) (previous : Option Char) :
    beforeSeparator? previous more = none := by
  induction more generalizing previous with
  | nil => rfl
  | cons c rest inductionHypothesis =>
    simp only [List.mem_cons, not_or] at noColon
    have other : ¬ (c = ':' ∧ previous ≠ some '\\') := fun both => noColon.1 both.1.symm
    rw [beforeSeparator?, if_neg other, inductionHypothesis noColon.2]
    rfl

theorem beforeSeparator?_append (noColon : ':' ∉ more) (previous : Option Char) (front : Text) :
    beforeSeparator? previous (front ++ more) = beforeSeparator? previous front := by
  induction front generalizing previous with
  | nil => exact beforeSeparator?_eq_none noColon previous
  | cons c front inductionHypothesis =>
    rw [List.cons_append, beforeSeparator?, beforeSeparator?, inductionHypothesis]

theorem indentOf_append_of_solid (solid : more.head?.any Text.isIndent = false) (front : Text) :
    indentOf (front ++ more) = indentOf front := by
  unfold indentOf
  induction front with
  | nil =>
    have none_ : ([] ++ more).takeWhile Text.isIndent = [] :=
      Text.takeWhile_append_of_stops (List.forall_mem_nil _) solid
    rw [none_, List.takeWhile_nil]
  | cons c front inductionHypothesis =>
    by_cases indent : Text.isIndent c = true
    · rw [List.cons_append, List.takeWhile_cons_of_pos indent, List.takeWhile_cons_of_pos indent,
        List.length_cons, List.length_cons, inductionHypothesis]
    · rw [List.cons_append, List.takeWhile_cons_of_neg indent, List.takeWhile_cons_of_neg indent]

theorem isInsideTemplate_append (plain : ∀ c ∈ more, c ≠ '\x7b' ∧ c ≠ '\x7d') (front : Text) :
    Document.isInsideTemplate (front ++ more) = Document.isInsideTemplate front := by
  have opens : ∀ c ∈ Document.opening, c ∉ more := by
    intro c member there
    have same : c = '\x7b' := by simpa [Document.opening] using member
    exact (plain c there).1 same
  have closes : ∀ c ∈ Document.closing, c ∉ more := by
    intro c member there
    have same : c = '\x7d' := by simpa [Document.closing] using member
    exact (plain c there).2 same
  unfold Document.isInsideTemplate
  rw [Text.lastIndex?_append_of_disjoint (by decide) opens,
    Text.lastIndex?_append_of_disjoint (by decide) closes]

/-- A context is the other one with more typed in front of the cursor. -/
structure Grows (more : Text) (context longer : Context) : Prop where
  lineBefore : longer.lineBefore = context.lineBefore ++ more
  inTemplate : longer.inTemplate = context.inTemplate
  inValue : longer.inValue = context.inValue
  key : longer.key = context.key
  parentKeys : longer.parentKeys = context.parentKeys

theorem ne_of_isTokenChar {c other : Char} (token : Text.isTokenChar c = true)
    (isOther : Text.isTokenChar other = false) : c ≠ other :=
  fun same => by rw [same, isOther] at token; cases token

theorem not_isIndent_of_isTokenChar {c : Char} (token : Text.isTokenChar c = true) :
    Text.isIndent c = false :=
  Text.not_isIndent_of_accepted token (by decide) (by decide)

/-- Whatever follows the cursor, before and after, a context grows by the characters of a name that
are typed. -/
theorem grows_between (front rest last : Text) (token : ∀ c ∈ more, Text.isTokenChar c = true) :
    Grows more (between front rest) (between (front ++ more) last) := by
  have absent {c : Char} (isOther : Text.isTokenChar c = false) : c ∉ more :=
    fun member => ne_of_isTokenChar (token c member) isOther rfl
  have feed : '\n' ∉ more := absent (by decide)
  have line : (front ++ more).lastLine = front.lastLine ++ more :=
    Text.lastLine_append_of_plain feed front
  have separated := beforeSeparator?_append (absent (by decide) : ':' ∉ more) none front.lastLine
  constructor
  · rw [lineBefore_between, lineBefore_between, line]
  · rw [inTemplate_between, inTemplate_between, line]
    apply isInsideTemplate_append
    intro c member
    exact ⟨ne_of_isTokenChar (token c member) (by decide),
      ne_of_isTokenChar (token c member) (by decide)⟩
  · rw [inValue_between, inValue_between, line, separated]
  · rw [key_between, key_between, line, separated]
  · have solid : more.head?.any Text.isIndent = false := by
      cases more with
      | nil => rfl
      | cons c more => exact not_isIndent_of_isTokenChar (token c (by simp))
    rw [parentKeys_between, parentKeys_between, line, indentOf_append_of_solid solid,
      Text.endedLines_append_of_plain feed]

end Context

end HomeConfig
