import HomeConfig.Text.Basic
import HomeConfig.Text.Class.Case
import Mathlib.Data.List.Basic

/-!
# Lower case letter by letter

To compare texts without regard to case, each letter is put in its lower-case form.  With one
exception the form of a letter does not depend on its neighbours: a capital sigma becomes a final
one where a word ends.  A text without such a sigma is put in lower case letter by letter.

This matters where a part of a text is looked for.  Letter by letter, the lower-case form of a part
is a part of the lower-case form (`infix_letterwise`).  With the exception it is not: a part can end
at a sigma that goes on in the text.
-/

namespace HomeConfig

namespace Text

/-- The lower-case form of a text, each letter by itself. -/
def letterwise (text : Text) : Text :=
  text.flatMap fun c => lower [c]

/-- A capital sigma stands at the end of a word. -/
def HasFinalSigma (text : Text) : Prop :=
  ∃ before after, text = before ++ '\u03a3' :: after ∧ meetsCased before.reverse = true ∧
    meetsCased after = false

theorem letterwise_append (text more : Text) :
    letterwise (text ++ more) = letterwise text ++ letterwise more :=
  List.flatMap_append

/-- A part of a text is found again in lower case. -/
theorem infix_letterwise {part text : Text} (found : part <:+: text) :
    letterwise part <:+: letterwise text := by
  rcases found with ⟨before, after, rfl⟩
  rw [letterwise_append, letterwise_append]
  exact List.infix_append _ _ _

/-- What has been passed only matters to a sigma at the end of a word. -/
theorem lowerFrom_eq_letterwise (before text : Text)
    (noFinal : ∀ passed after, text = passed ++ '\u03a3' :: after →
      meetsCased (passed.reverse ++ before) = true → meetsCased after = true) :
    lowerFrom before text = letterwise text := by
  induction text generalizing before with
  | nil => rfl
  | cons c text inductionHypothesis =>
    have later : lowerFrom (c :: before) text = letterwise text := by
      apply inductionHypothesis
      intro passed after shape met
      apply noFinal (c :: passed) after
      · rw [shape, List.cons_append]
      · simpa using met
    have whole : letterwise (c :: text) = lower [c] ++ letterwise text := rfl
    rw [lowerFrom, later, whole]
    split
    next sigma =>
      subst sigma
      have here : (meetsCased before && !meetsCased text) = false := by
        cases met : meetsCased before with
        | false => rfl
        | true => simp [noFinal [] text rfl (by simpa using met)]
      rw [here]
      rfl
    next noSigma =>
      split
      next dotted =>
        subst dotted
        rfl
      next noDot =>
        simp [lower, lowerFrom, noSigma, noDot]

theorem lower_eq_letterwise {text : Text} (noFinal : ¬ HasFinalSigma text) :
    lower text = letterwise text := by
  apply lowerFrom_eq_letterwise
  intro passed after shape met
  rw [List.append_nil] at met
  cases goesOn : meetsCased after with
  | true => rfl
  | false => exact absurd ⟨passed, after, shape, met, goesOn⟩ noFinal

theorem not_hasFinalSigma {text : Text} (noSigma : '\u03a3' ∉ text) : ¬ HasFinalSigma text := by
  rintro ⟨before, after, rfl, _⟩
  simp at noSigma

end Text

end HomeConfig
