import HomeConfig.Proofs.Yaml.Construct
import HomeConfig.Yaml.Document

/-!
# Why documents cannot be loaded

A text is read once, then its documents are put together and made into values one after the other.
Each of the three programs explains its own refusals (`TokenStream.ofText_within`,
`Graph.next?_within`, `Graph.value_within`), and so they explain those of the whole: an error of
syntax is marked in the text if it is marked at all, and a fault of content comes from an escape
beyond the last character or from a node at odds with its tag.

The nodes that this speaks of are those of the documents that can be put together, whether or not
the documents in front of them can be made into values (`graphs`).
-/

namespace HomeConfig

namespace Yaml

theorem Failure.Explained.mono {text : Text} {reason wider : Prop} {failure : Failure}
    (explained : failure.Explained text reason) (widens : reason → wider) :
    failure.Explained text wider := by
  cases failure with
  | syntaxError error => exact explained
  | content fault => exact widens explained

/-- The documents from a state on, as far as they can be put together. -/
def graphsFrom (first : Bool) : (bound : Nat) → Assembly → List Graph
  | 0, _ => []
  | bound + 1, state =>
    match Graph.next? first state with
    | .ok (some (graph, _, after)) => graph :: graphsFrom false bound after
    | .ok none => []
    | .error _ => []

/-- The documents of a text, as far as they can be put together. -/
def graphs (text : Text) : List Graph :=
  let stream := TokenStream.ofText text
  graphsFrom true (stream.tokens.length + 2) (Graph.begin stream)

/-- What may make a text fail for its content stands in it: an escape that is beyond the last
character, or a node at odds with its tag. -/
def holdsFault (text : Text) : Bool :=
  hasFarEscape text || (graphs text).any Graph.isAtOdds

theorem Assembly.Within.nodeAt {text : Text} {state : Assembly} (within : state.Within text)
    (id : NodeId) : (state.graph.nodeAt id).start.Within text := by
  rw [Graph.nodeAt]
  cases found : state.graph[id]? with
  | none => exact Mark.Within.start text
  | some node => exact within.graph node (Array.mem_of_getElem? found)

theorem loadFrom_explained {text : Text} {failure : Failure} {first : Bool} {bound : Nat}
    {state : Assembly} (within : state.Within text)
    (fails : loadFrom first bound state = .error failure) :
    failure.Explained text
      (hasFarEscape text || (graphsFrom first bound state).any Graph.isAtOdds) := by
  induction bound generalizing first state with
  | zero => cases fails
  | succ bound inductionHypothesis =>
    have next := Graph.next?_within first within
    rw [loadFrom] at fails
    rw [graphsFrom]
    cases outcome : Graph.next? first state with
    | error reason =>
      rw [outcome] at next fails
      cases fails
      exact next.mono fun far => by simp [far]
    | ok found =>
      rw [outcome] at next fails
      rcases found with _ | ⟨graph, root, after⟩
      · cases fails
      rcases next with ⟨rfl, behind⟩
      cases made : after.graph.value root with
      | error reason =>
        simp only [bind, Except.bind, made] at fails
        cases fails
        exact (Graph.value_within behind.nodeAt made).mono fun atOdds => by simp [atOdds]
      | ok value =>
        cases others : loadFrom false bound after with
        | ok values =>
          simp only [bind, Except.bind, made, others] at fails
          cases fails
        | error reason =>
          simp only [bind, Except.bind, made, others] at fails
          cases fails
          refine (inductionHypothesis behind others).mono fun later => ?_
          rcases Bool.or_eq_true_iff.mp later with far | atOdds
          · simp [far]
          · simp [List.any_cons, atOdds]

/-- A text is refused at a place of its own, or at no place, or for a fault that it holds. -/
theorem load_explained {text : Text} {failure : Failure} (fails : load text = .error failure) :
    failure.Explained text (holdsFault text) := by
  unfold load at fails
  dsimp only at fails
  split at fails
  · cases fails
    intro mark isMark
    cases isMark
  · exact loadFrom_explained (Graph.begin_within text) fails

end Yaml

end HomeConfig
