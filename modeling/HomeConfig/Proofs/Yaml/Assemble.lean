import HomeConfig.Proofs.Yaml.Tokenise
import HomeConfig.Yaml.Node

/-!
# Nodes start in their text

The tokens of a text become nodes without another look at the text, so what is known of the tokens
carries over: a node starts where one of its tokens starts or stops, and an error is marked at a
token or is the failure that the tokens end with.  Nothing here depends on the grammar.  Each
reader is given marks and gives nodes back, and it stays within the text whatever it is put
together from.

The readers of nodes, of items and of entries call each other with one bound.  `NodesWithin` says of
all of them that they stay within the text with a bound, and there is one lemma for each that raises
the bound by one.
-/

namespace HomeConfig

namespace Yaml

open Std.Do

set_option mvcgen.warning false

/-- What holds of all nodes of a graph holds of them after a change that keeps it. -/
theorem Graph.forall_modify {graph : Graph} {holds : Node → Prop}
    (every : ∀ node ∈ graph, holds node) (id : NodeId) (change : Node → Node)
    (keeps : ∀ node, holds node → holds (change node)) :
    ∀ node ∈ graph.modify id change, holds node := by
  intro node member
  rcases Array.mem_iff_getElem.mp member with ⟨place, inside, rfl⟩
  rw [Array.getElem_modify]
  split
  · exact keeps _ (every _ (Array.getElem_mem _))
  · exact every _ (Array.getElem_mem _)

/-- A state that may be reached while tokens of a text are put together: its tokens and its nodes
stand within the text. -/
structure Assembly.Within (text : Text) (state : Assembly) : Prop where
  tokens : ∀ token ∈ state.tokens, token.Within text
  failure : ∀ failure ∈ state.failure, failure.Explained text (hasFarEscape text)
  graph : ∀ node ∈ state.graph, node.start.Within text

namespace Assembly.Within

variable {text : Text} {state state' : Assembly}

/-- What handles and anchors are known makes no difference. -/
theorem update (within : state.Within text) (tokens : state'.tokens = state.tokens)
    (failure : state'.failure = state.failure) (graph : state'.graph = state.graph) :
    state'.Within text :=
  ⟨tokens ▸ within.tokens, failure ▸ within.failure, graph ▸ within.graph⟩

/-- A new document has no nodes yet. -/
theorem renew (within : state.Within text) :
    Assembly.Within text { state with graph := #[], anchors := [] } :=
  ⟨within.tokens, within.failure, by simp⟩

end Assembly.Within

attribute [grind =] Token.Within

namespace Assembling

/-- A step stays within the text; if it fails for its content, an escape is the reason. -/
abbrev StaysWithin (text : Text) {Result : Type} (step : Assembling Result) : Prop :=
  Keeps (Assembly.Within text) (Failure.Explained text (hasFarEscape text)) step

/-- A step stays within the text and gives a result of the given kind. -/
abbrev GivesWithin (text : Text) {Result : Type} (good : Result → Prop) (step : Assembling Result) :
    Prop :=
  Gives (Assembly.Within text) (Failure.Explained text (hasFarEscape text)) good step

variable (text : Text)

/-! ## Tokens and nodes -/

@[spec]
theorem fail_within {Result : Type} (context : Option String) (problem : String) {mark : Mark}
    (within : mark.Within text) :
    StaysWithin text (fail context problem mark : Assembling Result) := by
  intro state _
  rintro _ ⟨⟩
  exact within

@[spec]
theorem peek_within : GivesWithin text (Token.Within text) peek := by
  mvcgen [peek]
  next state within token rest _ _ shape => exact ⟨within, within.tokens token (by simp [shape])⟩
  next state within failure shape _ => exact within.failure failure shape
  next state within _ _ => exact ⟨within, Mark.Within.start text, Mark.Within.start text⟩

@[spec]
theorem take_within : GivesWithin text (Token.Within text) take := by
  mvcgen [take]
  next token state within _ =>
    refine ⟨⟨fun later member => ?_, within.1.failure, within.1.graph⟩, within.2⟩
    exact within.1.tokens later (List.mem_of_mem_tail member)

@[spec]
theorem peekKind_within : StaysWithin text peekKind := by
  mvcgen [peekKind]
  next within => exact within.1

@[spec]
theorem add_within {node : Node} (starts : node.start.Within text) (anchor : Option String) :
    StaysWithin text (add node anchor) := by
  intro state within
  refine ⟨within.tokens, within.failure, fun found member => ?_⟩
  rcases Array.mem_push.mp member with earlier | rfl
  · exact within.graph found earlier
  · exact starts

@[spec]
theorem fill_within (id : NodeId) (content : Content) : StaysWithin text (fill id content) := by
  intro state within
  exact ⟨within.tokens, within.failure, Graph.forall_modify within.graph id
    (fun node => { node with content := content }) fun _ starts => starts⟩

@[spec]
theorem emptyNode_within {mark : Mark} (within : mark.Within text) :
    StaysWithin text (emptyNode mark) := by
  mvcgen [emptyNode]
  all_goals grind

/-! ## Properties -/

@[spec]
theorem anchor?_within :
    GivesWithin text (fun found => ∀ name mark, found = some (name, mark) → mark.Within text)
      anchor? := by
  mvcgen [anchor?]
  all_goals grind

@[spec]
theorem tag?_within :
    GivesWithin text
      (fun found => ∀ handle suffix mark, found = some (handle, suffix, mark) → mark.Within text)
      tag? := by
  mvcgen [tag?]
  all_goals grind

@[spec]
theorem properties_within :
    GivesWithin text (fun found => ∀ mark, mark.Within text → (found.start.getD mark).Within text)
      properties := by
  mvcgen [properties]
  all_goals grind

@[spec]
theorem checkAnchor_within (anchor : Option String) {mark : Mark} (within : mark.Within text) :
    StaysWithin text (checkAnchor anchor mark) := by
  mvcgen [checkAnchor]
  all_goals grind [Failure.Explained, Error.mark?]

/-! ## Nodes -/

/-- What is to be shown of the six readers of nodes and their parts, at one bound. -/
structure NodesWithin (bound : Nat) : Prop where
  node : ∀ block indentless, StaysWithin text (node block indentless bound)
  blockItems : ∀ start, StaysWithin text (blockItems start bound)
  indentlessEntries : StaysWithin text (indentlessEntries bound)
  blockEntries : ∀ start, StaysWithin text (blockEntries start bound)
  flowItems : ∀ start first, StaysWithin text (flowItems start first bound)
  flowEntries : ∀ start first, StaysWithin text (flowEntries start first bound)

theorem nodesWithin_zero : NodesWithin text 0 where
  node block indentless := by
    unfold node
    mvcgen
    all_goals grind
  blockItems start := by mvcgen [blockItems]
  indentlessEntries := by mvcgen [indentlessEntries]
  blockEntries start := by mvcgen [blockEntries]
  flowItems start first := by mvcgen [flowItems]
  flowEntries start first := by mvcgen [flowEntries]

namespace NodesWithin

variable {text : Text} {bound : Nat} (below : NodesWithin text bound)

include below

theorem node_succ (block indentless : Bool) :
    StaysWithin text (Assembling.node block indentless (bound + 1)) := by
  rcases below with
    ⟨node_, blockItems_, indentlessEntries_, blockEntries_, flowItems_, flowEntries_⟩
  unfold Assembling.node
  mvcgen [node_, blockItems_, indentlessEntries_, blockEntries_, flowItems_, flowEntries_]
  all_goals grind [Failure.Explained, Error.mark?]

theorem blockItems_succ (start : Mark) :
    StaysWithin text (Assembling.blockItems start (bound + 1)) := by
  have node_ := below.node
  have blockItems_ := below.blockItems
  unfold Assembling.blockItems
  mvcgen [node_, blockItems_]
  all_goals grind

theorem indentlessEntries_succ : StaysWithin text (Assembling.indentlessEntries (bound + 1)) := by
  have node_ := below.node
  have indentlessEntries_ := below.indentlessEntries
  unfold Assembling.indentlessEntries
  mvcgen [node_, indentlessEntries_]
  all_goals grind

theorem blockEntries_succ (start : Mark) :
    StaysWithin text (Assembling.blockEntries start (bound + 1)) := by
  have node_ := below.node
  have blockEntries_ := below.blockEntries
  unfold Assembling.blockEntries
  mvcgen [node_, blockEntries_]
  all_goals grind

theorem flowItems_succ (start : Mark) (first : Bool) :
    StaysWithin text (Assembling.flowItems start first (bound + 1)) := by
  have node_ := below.node
  have flowItems_ := below.flowItems
  unfold Assembling.flowItems
  mvcgen [node_, flowItems_]
  all_goals grind

theorem flowEntries_succ (start : Mark) (first : Bool) :
    StaysWithin text (Assembling.flowEntries start first (bound + 1)) := by
  have node_ := below.node
  have flowEntries_ := below.flowEntries
  unfold Assembling.flowEntries
  mvcgen [node_, flowEntries_]
  all_goals grind

end NodesWithin

theorem nodesWithin (bound : Nat) : NodesWithin text bound := by
  induction bound with
  | zero => exact nodesWithin_zero text
  | succ bound below =>
    exact ⟨below.node_succ, below.blockItems_succ, below.indentlessEntries_succ,
      below.blockEntries_succ, below.flowItems_succ, below.flowEntries_succ⟩

@[spec]
theorem node_within (block indentless : Bool) (bound : Nat) :
    StaysWithin text (node block indentless bound) :=
  (nodesWithin text bound).node block indentless

/-! ## Documents -/

@[spec]
theorem directives_within (version : Bool) (handles : List (String × String)) (bound : Nat) :
    StaysWithin text (directives version handles bound) := by
  induction bound generalizing version handles with
  | zero => mvcgen [directives]
  | succ bound inductionHypothesis =>
    mvcgen [directives, inductionHypothesis]
    all_goals grind

@[spec]
theorem skipDocumentEnds_within (bound : Nat) : StaysWithin text (skipDocumentEnds bound) := by
  induction bound with
  | zero => mvcgen [skipDocumentEnds]
  | succ bound inductionHypothesis =>
    mvcgen [skipDocumentEnds, inductionHypothesis]
    all_goals grind

@[spec]
theorem finish_within {content : Assembling NodeId} (within : StaysWithin text content) :
    StaysWithin text (finish content) := by
  mvcgen [finish, within]
  all_goals grind

@[spec]
theorem announced_within (bound : Nat) : StaysWithin text (announced bound) := by
  unfold announced
  mvcgen
  case vc5 state within _ => exact within.update rfl rfl rfl
  all_goals grind

theorem document_within (first : Bool) (bound : Nat) : StaysWithin text (document first bound) := by
  unfold document
  mvcgen
  case vc1 state within _ _ => exact within.renew
  case vc8 state within _ => exact within.1.update rfl rfl rfl
  case vc9 state within _ _ => exact within.renew
  all_goals grind

end Assembling

namespace Graph

variable {text : Text} {state : Assembly}

theorem begin_within (text : Text) : (begin (TokenStream.ofText text)).Within text where
  tokens := fun token member =>
    (TokenStream.ofText_within text).tokens token (List.mem_of_mem_tail member)
  failure := (TokenStream.ofText_within text).failure
  graph := by simp [begin]

/-- The nodes of a document stand within the text, and so does what is behind the document; if
there is none because the text is refused, the reason is a place of the text or an escape. -/
theorem next?_within (first : Bool) (within : state.Within text) :
    match next? first state with
    | .ok (some (graph, _, after)) => graph = after.graph ∧ after.Within text
    | .ok none => True
    | .error failure => failure.Explained text (hasFarEscape text) := by
  have ends := (Assembling.document_within text first
    (4 * state.tokens.length + 8)).endsWell_run within
  cases outcome : (Assembling.document first (4 * state.tokens.length + 8)).run state with
  | error failure =>
    rw [outcome] at ends
    simpa [next?, outcome, bind, Except.bind] using ends
  | ok result =>
    rcases result with ⟨_ | root, after⟩
    · simp [next?, outcome, bind, Except.bind, pure, Except.pure]
    · rw [outcome] at ends
      simpa [next?, outcome, bind, Except.bind, pure, Except.pure] using ends.1

end Graph

end Yaml

end HomeConfig
