import HomeConfig.Proofs.Document.Exact
import HomeConfig.Proofs.Template.Span
import HomeConfig.Template.Issue

/-!
# Expressions of an accepted template

The expressions of a document are searched for by their braces, and each is checked as a template
of its own.  The cutter delimits them otherwise: inside an expression it counts brackets and passes
strings, and in comments and raw parts braces mean nothing.  Where both delimit alike
(`Delimited`), a template that is accepted as a whole has no faulty expression
(`accepted_template_has_no_issue`): its tokens between the signs of an expression are those of the
expression alone, and reading them alone succeeds as it did in the template.

Where they do not, the search ends an expression at the first closing braces, and what it cuts off
there may well be refused: `accepted_template_with_an_issue` has such a template.
-/

namespace HomeConfig

namespace Template

/-- Where the expressions of a template open and close. -/
def expressionSpans (text : Text) : List (Nat × Nat) :=
  Cutter.spans ((normalise text).length + 1) (.start (normalise text))

/-- Every expression that is found by its braces opens and closes where the template has an
expression open and close. -/
def Delimited (text : Text) : Prop :=
  ∀ excerpt ∈ Document.expressions text, (excerpt.start, excerpt.stop) ∈ expressionSpans text

instance (text : Text) : Decidable (Delimited text) :=
  inferInstanceAs (Decidable (∀ _ ∈ _, _))

/-! ## Line ends -/

/-- A carriage return as a line feed. -/
def fed (c : Char) : Char :=
  if c = '\r' then '\n' else c

theorem unifyBreaks_of_line {text : Text} (line : '\n' ∉ text) :
    Text.unifyBreaks text = text.map fed := by
  induction text using Text.unifyBreaks.induct with
  | case1 => rfl
  | case2 rest _ => exact absurd (.tail _ (.head _)) line
  | case3 rest _ inductionHypothesis =>
    rw [Text.unifyBreaks, inductionHypothesis fun later => line (.tail _ later)]
    · rfl
    · assumption
  | case4 c rest _ other inductionHypothesis =>
    rw [Text.unifyBreaks, inductionHypothesis fun later => line (.tail _ later), List.map_cons, fed,
      if_neg other]
    · assumption
    · assumption

theorem normalise_of_line {text : Text} (line : '\n' ∉ text) :
    normalise text = if (text.map fed).getLast? = some '\n' then (text.map fed).dropLast
      else text.map fed := by
  rw [normalise, unifyBreaks_of_line line]

/-- On one line, an expression stands in the unified template as it does in the template. -/
theorem cut_normalise {text front : Text} {excerpt : Excerpt} (line : '\n' ∉ text)
    (stands : excerpt.StandsBehind text front)
    (isExpression : Document.IsExpression excerpt.text) :
    ((normalise text).take excerpt.stop).drop excerpt.start = normalise excerpt.text := by
  have last : (excerpt.text.map fed).getLast? = some '\x7d' := by
    rcases isExpression with ⟨inside, shape, _⟩
    rw [shape, List.map_append, List.getLast?_append]
    rfl
  have alone : normalise excerpt.text = excerpt.text.map fed := by
    rw [normalise_of_line isExpression.feed_notMem, last, if_neg (by decide)]
  rcases stands with ⟨start, behind, rfl⟩
  obtain ⟨tail, shape⟩ : ∃ tail, normalise (front ++ excerpt.text ++ behind) =
      front.map fed ++ excerpt.text.map fed ++ tail := by
    rw [normalise_of_line line, List.map_append, List.map_append]
    cases behind with
    | nil =>
      rw [List.map_nil, List.append_nil, List.getLast?_append, last]
      exact ⟨[], (List.append_nil _).symm⟩
    | cons c rest =>
      split
      · exact ⟨_, List.dropLast_append_of_ne_nil (by simp)⟩
      · exact ⟨_, rfl⟩
  have stop : excerpt.stop = (front.map fed ++ excerpt.text.map fed).length := by
    rw [List.length_append, List.length_map, List.length_map, start]
    rfl
  rw [shape, alone, stop, List.take_left, ← start, ← List.length_map fed, List.drop_left]

/-! ## Issues -/

theorem issuesOf_of_accepted {excerpts : List Excerpt}
    (accepted : ∀ excerpt ∈ excerpts, check excerpt.text = .ok none) :
    issuesOf excerpts = .ok [] := by
  induction excerpts with
  | nil => rfl
  | cons excerpt others inductionHypothesis =>
    rw [issuesOf, accepted excerpt (.head _),
      inductionHypothesis fun other member => accepted other (.tail _ member)]
    rfl

theorem accept_of_check {text : Text} (accepted : check text = .ok none) :
    accept (TokenStream.ofText text) = .ok () := by
  unfold check at accepted
  split at accepted
  · assumption
  · cases accepted
  · cases accepted

/-- The tokens of an accepted template are sound, as far as its expressions go. -/
theorem sound_of_check {text : Text} (accepted : check text = .ok none) :
    Sound (TokenStream.ofText text).tokens :=
  sound_of_accept ((Cutter.ordered_collect _ _).2 nofun nofun) (accept_of_check accepted)

/-- An expression that opens and closes in an accepted template is accepted alone. -/
theorem check_of_mem_expressionSpans {text expression : Text} {start stop : Nat}
    (accepted : check text = .ok none) (member : (start, stop) ∈ expressionSpans text)
    (cut : ((normalise text).take stop).drop start = normalise expression) :
    check expression = .ok none := by
  have within : Cutter.Within (normalise text) (.start (normalise text)) := ⟨rfl, fun _ _ => rfl⟩
  rcases Cutter.severed_of_mem_spans within member with
    ⟨inner, ⟨before, rest, split⟩, isInner, alone⟩
  rw [cut] at alone
  have tokens : TokenStream.ofText expression = ⟨printing inner, none⟩ := alone
  rw [check, tokens, (sound_of_check accepted).accept_of_split isInner split]

/-- A template of one line that is accepted as a whole has no issue, if its expressions are
delimited by their braces alone. -/
theorem accepted_template_has_no_issue (text : Text) (line : '\n' ∉ text)
    (accepted : check text = .ok none) (delimited : Delimited text) : issues text = .ok [] := by
  rcases Document.expressions_yields text with ⟨_, yields⟩
  refine issuesOf_of_accepted fun excerpt member => ?_
  rcases yields.stands excerpt member with ⟨front, stands, isExpression⟩
  exact check_of_mem_expressionSpans accepted (delimited excerpt member)
    (cut_normalise line stands isExpression)

theorem template_with_two_expressions_has_no_issue :
    let text :=
      "at \x7b\x7b states('x')|upper \x7d\x7d, \x7b\x7b \x7b'a': 1\x7d['a'] \x7d\x7d".toList
    '\n' ∉ text ∧ check text = .ok none ∧ Delimited text ∧ issues text = .ok [] := by
  intro text
  have line : '\n' ∉ text := by decide +kernel
  have accepted : check text = .ok none := by decide +kernel
  have delimited : Delimited text := by decide +kernel
  exact ⟨line, accepted, delimited, accepted_template_has_no_issue text line accepted delimited⟩

/-- The braces of a nested dictionary end an expression too early. -/
theorem accepted_template_with_an_issue :
    let text := "\x7b\x7b \x7b'a': \x7b'b': 1\x7d\x7d \x7d\x7d".toList
    '\n' ∉ text ∧ check text = .ok none ∧
      issues text = .ok [⟨⟨0, text.take 18⟩,
        "Jinja2 syntax error: unexpected end of template, expected 'end of print statement'."⟩] := by
  decide +kernel

end Template

end HomeConfig
