import HomeConfig.Proofs.Yaml.Assemble
import HomeConfig.Yaml.Construction

/-!
# Nodes at odds with their tags

Making a value of a document can end in an error of syntax, which is marked where some node starts,
or in a fault of content.  The second happens only where a tag asks for a truth value, a number or a
date and the node with this tag holds something else: the node is at odds with its tag
(`Node.isAtOdds`).  This is told from the nodes alone, before any value is made.

The difficulty is that the nodes change while values are made.  Merge keys are resolved by giving
mappings other entries, and a key `=` is taken for a text.  Such a node is a revision of the one it
was (`Node.Revises`): it starts at the same place, its tag is the same or the one of texts, and it
holds the same unless both hold entries.  None of this brings a node at odds with its tag, so every
fault can be traced back to a node as it was in the beginning.
-/

namespace HomeConfig

namespace Yaml

open Std.Do

set_option mvcgen.warning false

/-! ## Nodes -/

/-- How a scalar with a tag of the core schema is read, if not every text will do. -/
def reader? (tag : String) : Option (Text → Except ContentFault Scalar) :=
  if tag = coreTag "bool" then some Scalar.readBool
  else if tag = coreTag "int" then some Scalar.readInteger
  else if tag = coreTag "float" then some Scalar.readNumber
  else if tag = coreTag "timestamp" then some Scalar.readTimestamp
  else none

/-- A node whose tag asks for a scalar of a kind that its content is not. -/
def Node.isAtOdds (node : Node) : Bool :=
  match reader? node.tag, node.content with
  | some read, .scalar text => !(read text).isOk
  | some _, _ => true
  | none, _ => false

/-- The node with a number, or an empty one if there is none. -/
def Graph.nodeAt (graph : Graph) (id : NodeId) : Node :=
  graph[id]?.getD ⟨"", Mark.start, .scalar []⟩

theorem Graph.nodeAt_modify (graph : Graph) (id other : NodeId) (change : Node → Node) :
    Graph.nodeAt (graph.modify id change) other = graph.nodeAt other ∨
      id = other ∧ Graph.nodeAt (graph.modify id change) other = change (graph.nodeAt other) := by
  rw [nodeAt, Array.getElem?_modify]
  split
  next same =>
    rw [nodeAt]
    cases graph[other]? with
    | none => exact Or.inl rfl
    | some node => exact Or.inr ⟨same, rfl⟩
  next => exact Or.inl rfl

/-- A node that holds entries. -/
def Node.IsMapping (node : Node) : Prop :=
  ∃ entries, node.content = .mapping entries

/-- What construction may make of a node: it may take a key for a text, and it may replace the
entries of a mapping. -/
structure Node.Revises (node original : Node) : Prop where
  start : node.start = original.start
  tag : node.tag = original.tag ∨ node.tag = coreTag "str"
  content : node.content = original.content ∨ node.IsMapping ∧ original.IsMapping

namespace Node.Revises

variable {node original : Node}

@[grind →]
theorem isMapping {entries : List (NodeId × NodeId)} (revises : node.Revises original)
    (content : node.content = .mapping entries) : original.IsMapping := by
  rcases revises.content with same | both
  · exact ⟨entries, same ▸ content⟩
  · exact both.2

/-- Anything but entries stays as it was. -/
theorem content_eq {content : Content} (revises : node.Revises original)
    (same : node.content = content) (different : ¬ node.IsMapping) :
    original.content = content := by
  rcases revises.content with unchanged | both
  · rw [← unchanged, same]
  · exact absurd both.1 different

@[grind →]
theorem eq_scalar {text : Text} (revises : node.Revises original)
    (content : node.content = .scalar text) : original.content = .scalar text :=
  revises.content_eq content fun ⟨_, mapping⟩ => by rw [content] at mapping; cases mapping

@[grind →]
theorem eq_sequence {items : List NodeId} (revises : node.Revises original)
    (content : node.content = .sequence items) : original.content = .sequence items :=
  revises.content_eq content fun ⟨_, mapping⟩ => by rw [content] at mapping; cases mapping

/-- The text of a scalar stays as it was. -/
theorem scalar {text : Text} (revises : node.Revises original)
    (content : original.content = .scalar text) : node.content = .scalar text := by
  rcases revises.content with same | ⟨_, entries, mapping⟩
  · rw [same, content]
  · rw [mapping] at content
    cases content

theorem withText (revises : node.Revises original) :
    Node.Revises { node with tag := coreTag "str" } original :=
  ⟨revises.start, Or.inr rfl, revises.content⟩

theorem withEntries (revises : node.Revises original) (isMapping : original.IsMapping)
    (entries : List (NodeId × NodeId)) :
    Node.Revises { node with content := .mapping entries } original :=
  ⟨revises.start, revises.tag, Or.inr ⟨⟨entries, rfl⟩, isMapping⟩⟩

end Node.Revises

/-- A node of a graph is at odds with its tag. -/
def Graph.isAtOdds (graph : Graph) : Bool :=
  graph.any Node.isAtOdds

theorem Graph.isAtOdds_of_nodeAt {graph : Graph} (id : NodeId)
    (atOdds : (graph.nodeAt id).isAtOdds = true) : graph.isAtOdds = true := by
  rw [nodeAt] at atOdds
  cases found : graph[id]? with
  | none =>
    rw [found] at atOdds
    cases atOdds
  | some node =>
    rw [found] at atOdds
    exact Array.any_eq_true'.mpr ⟨node, Array.mem_of_getElem? found, atOdds⟩

/-- A state that may be reached while values are made of a graph whose nodes stand within a text:
every node is still a revision of the one it was. -/
structure Workshop.Within (text : Text) (graph : Graph) (state : Workshop) : Prop where
  places : ∀ id, (graph.nodeAt id).start.Within text
  revises : ∀ id, (state.graph.nodeAt id).Revises (graph.nodeAt id)

theorem Workshop.within_iff {text : Text} {graph : Graph} {state : Workshop} :
    state.Within text graph ↔ (∀ id, (graph.nodeAt id).start.Within text) ∧
      ∀ id, (state.graph.nodeAt id).Revises (graph.nodeAt id) :=
  ⟨fun within => ⟨within.places, within.revises⟩, fun ⟨places, revises⟩ => ⟨places, revises⟩⟩

section

variable {State Result Item : Type} {sound : State → Prop} {refusal : Failure → Prop}

theorem Keeps.mapM {step : Item → StateT State (Except Failure) Result} {items : List Item}
    (each : ∀ item ∈ items, Keeps sound refusal (step item)) :
    Keeps sound refusal (items.mapM step) := by
  induction items with
  | nil => mvcgen
  | cons item items inductionHypothesis =>
    have first := each item List.mem_cons_self
    have others := inductionHypothesis fun later member =>
      each later (List.mem_cons_of_mem item member)
    rw [List.mapM_cons]
    mvcgen [first, others]

theorem Keeps.foldlM {step : Result → Item → StateT State (Except Failure) Result}
    {items : List Item} (start : Result)
    (each : ∀ result, ∀ item ∈ items, Keeps sound refusal (step result item)) :
    Keeps sound refusal (items.foldlM step start) := by
  induction items generalizing start with
  | nil =>
    rw [List.foldlM_nil]
    mvcgen
  | cons item items inductionHypothesis =>
    have first := each start item List.mem_cons_self
    have others (result : Result) := inductionHypothesis result fun earlier later member =>
      each earlier later (List.mem_cons_of_mem item member)
    rw [List.foldlM_cons]
    mvcgen [first, others, -Spec.foldlM_list]

end

namespace Making

/-- A step revises the nodes of a graph only; if it fails for its content, one of them is at odds
with its tag. -/
abbrev StaysWithin (text : Text) (graph : Graph) {Result : Type} (step : Making Result) : Prop :=
  Keeps (Workshop.Within text graph) (Failure.Explained text graph.isAtOdds) step

/-- A step revises the nodes of a graph only and gives a result of the given kind. -/
abbrev GivesWithin (text : Text) (graph : Graph) {Result : Type} (good : Result → Prop)
    (step : Making Result) : Prop :=
  Gives (Workshop.Within text graph) (Failure.Explained text graph.isAtOdds) good step

variable (text : Text) (graph : Graph)

/-! ## Nodes and collections -/

@[spec]
theorem fail_within {Result : Type} (context : Option String) (problem : String) {mark : Mark}
    (within : mark.Within text) :
    StaysWithin text graph (fail context problem mark : Making Result) := by
  intro state _
  rintro _ ⟨⟩
  exact within

@[spec]
theorem node_within (id : NodeId) :
    GivesWithin text graph
      (fun found => found.Revises (graph.nodeAt id) ∧ found.start.Within text) (node id) := by
  have shown (state : Workshop) (within : state.Within text graph) :
      (state.graph.nodeAt id).Revises (graph.nodeAt id) ∧
        (state.graph.nodeAt id).start.Within text := by
    refine ⟨within.revises id, ?_⟩
    rw [(within.revises id).start]
    exact within.places id
  mvcgen [node]
  next state within node found =>
    have revises := shown state within
    rw [Graph.nodeAt, found] at revises
    exact ⟨within, revises⟩
  next state within found =>
    have revises := shown state within
    rw [Graph.nodeAt, found] at revises
    exact ⟨within, revises⟩

@[spec]
theorem change_within {id : NodeId} {f : Node → Node}
    (revises : ∀ node : Node, node.Revises (graph.nodeAt id) →
      (f node).Revises (graph.nodeAt id)) :
    StaysWithin text graph (change id f) := by
  intro state within
  refine ⟨within.places, fun other => ?_⟩
  have earlier := within.revises other
  rcases Graph.nodeAt_modify state.graph id other f with same | ⟨rfl, changed⟩
  · exact same ▸ earlier
  · exact changed ▸ revises _ earlier

@[spec]
theorem allocate_within (collection : Collection) :
    StaysWithin text graph (allocate collection) := by
  intro state within
  exact ⟨within.places, within.revises⟩

@[spec]
theorem postpone_within (id : NodeId) (empty : Collection) (filling : Filling) :
    StaysWithin text graph (postpone id empty filling) := by
  mvcgen [postpone]
  next state within _ => exact ⟨within.places, within.revises⟩

@[spec]
theorem mapM_within {Item Result : Type} {step : Item → Making Result} {items : List Item}
    (each : ∀ item ∈ items, StaysWithin text graph (step item)) :
    StaysWithin text graph (items.mapM step) :=
  Keeps.mapM each

@[spec]
theorem foldlM_within {Item Result : Type} {step : Result → Item → Making Result}
    {items : List Item} (start : Result)
    (each : ∀ result, ∀ item ∈ items, StaysWithin text graph (step result item)) :
    StaysWithin text graph (items.foldlM step start) :=
  Keeps.foldlM start each

/-! ## Texts of scalars -/

@[spec]
theorem scalarText_within (bound : Nat) (id : NodeId) :
    GivesWithin text graph
      (fun found => 0 < bound → ∀ content, (graph.nodeAt id).content = .scalar content →
        found = content) (scalarText bound id) := by
  induction bound generalizing id with
  | zero =>
    mvcgen [scalarText]
    all_goals grind
  | succ bound inductionHypothesis =>
    unfold scalarText
    mvcgen [inductionHypothesis]
    all_goals grind [Node.IsMapping]

@[spec]
theorem textOf_within (id : NodeId) :
    GivesWithin text graph (fun found => ∀ content, (graph.nodeAt id).content = .scalar content →
        found = content) (textOf id) := by
  mvcgen [textOf]
  all_goals grind

/-! ## Merge keys -/

@[spec]
theorem entriesOf_within (id : NodeId) : StaysWithin text graph (entriesOf id) := by
  mvcgen [entriesOf]
  all_goals grind

@[spec]
theorem setEntries_within {id : NodeId} (isMapping : (graph.nodeAt id).IsMapping)
    (entries : List (NodeId × NodeId)) : StaysWithin text graph (setEntries id entries) := by
  mvcgen [setEntries]
  exact fun _ _ node revises => revises.withEntries isMapping entries

@[spec]
theorem resolveMerges_within (bound : Nat) {id : NodeId} (isMapping : (graph.nodeAt id).IsMapping)
    (index : Nat) (merged : List (NodeId × NodeId)) :
    StaysWithin text graph (resolveMerges id bound index merged) := by
  induction bound generalizing id index merged with
  | zero => mvcgen [resolveMerges]
  | succ bound inductionHypothesis =>
    unfold resolveMerges
    mvcgen [inductionHypothesis]
    all_goals grind [Node.Revises.withText]

/-! ## Values -/

@[spec]
theorem orFail_within {read : Except ContentFault Scalar}
    (sound : read.isOk = false → graph.isAtOdds) : StaysWithin text graph (orFail read) := by
  intro state within
  cases read with
  | ok value => exact within
  | error fault => exact sound rfl

/-- If no content of a node's own can be read as its tag asks, the node is at odds with it. -/
theorem isAtOdds_of_reader? {id : NodeId} {found : Node}
    {read : Text → Except ContentFault Scalar} (revises : found.Revises (graph.nodeAt id))
    (known : reader? found.tag = some read)
    (fails : ∀ content, (graph.nodeAt id).content = .scalar content →
      (read content).isOk = false) : graph.isAtOdds := by
  have tag : (graph.nodeAt id).tag = found.tag := by
    rcases revises.tag with same | changed
    · exact same.symm
    · rw [changed] at known
      cases known
  refine Graph.isAtOdds_of_nodeAt id ?_
  rw [Node.isAtOdds, tag, known]
  cases content : (graph.nodeAt id).content with
  | scalar content_ => simp [fails content_ content]
  | sequence items => rfl
  | mapping entries => rfl

/-- Reading the text of a node as its tag asks. -/
theorem reads_within {id : NodeId} {found : Node} {read : Text → Except ContentFault Scalar}
    (revises : found.Revises (graph.nodeAt id)) (known : reader? found.tag = some read) :
    StaysWithin text graph (do orFail (read (← textOf id))) := by
  mvcgen
  case vc2 within => exact within.1
  case vc3 =>
    exact fun _ _ shown fails => isAtOdds_of_reader? graph revises known fun content same =>
      shown content same ▸ fails

theorem coreScalar?_within {id : NodeId} {found : Node} (revises : found.Revises (graph.nodeAt id))
    {make : Making Datum} (made : coreScalar? found.tag id = some make) :
    StaysWithin text graph make := by
  unfold coreScalar? at made
  split_ifs at made with null bool int float binary timestamp str
  all_goals cases made
  · mvcgen
    all_goals grind
  · exact reads_within text graph revises (by rw [reader?, if_pos bool])
  · exact reads_within text graph revises (by rw [reader?, if_neg bool, if_pos int])
  · exact reads_within text graph revises
      (by rw [reader?, if_neg bool, if_neg int, if_pos float])
  · mvcgen
    all_goals grind
  · have known : reader? found.tag = some Scalar.readTimestamp := by
      rw [reader?, if_neg bool, if_neg int, if_neg float, if_pos timestamp]
    mvcgen
    case vc4 shown _ _ _ =>
      exact fun _ _ _ _ fails => isAtOdds_of_reader? graph revises known fun content same =>
        shown.2 content same ▸ fails
    case vc5 node _ different shape _ within =>
      exact isAtOdds_of_reader? graph revises known fun content same =>
        (different content (shape.symm.trans (within.2.1.scalar same))).elim
    all_goals grind
  · mvcgen
    all_goals grind

theorem coreCollection?_within {id : NodeId} {tag : String} {make : Making Datum}
    (made : coreCollection? tag id = some make) : StaysWithin text graph make := by
  unfold coreCollection? at made
  split_ifs at made
  all_goals
    cases made
    mvcgen

theorem core_within {id : NodeId} {found : Node} (revises : found.Revises (graph.nodeAt id))
    {make : Making Datum}
    (made : (coreScalar? found.tag id).or (coreCollection? found.tag id) = some make) :
    StaysWithin text graph make := by
  rcases Option.or_eq_some_iff.mp made with scalar | ⟨_, collection⟩
  · exact coreScalar?_within text graph revises scalar
  · exact coreCollection?_within text graph collection

/-- With a bound, whatever is made of a node revises nodes only. -/
structure ValuesWithin (bound : Nat) : Prop where
  construct : ∀ id, StaysWithin text graph (construct bound id)
  constructTagged : ∀ suffix id, StaysWithin text graph (constructTagged bound suffix id)
  constructItems : ∀ id, StaysWithin text graph (constructItems bound id)
  constructEntries : ∀ id, StaysWithin text graph (constructEntries bound id)

theorem valuesWithin_zero : ValuesWithin text graph 0 where
  construct id := by mvcgen [construct]
  constructTagged suffix id := by mvcgen [constructTagged]
  constructItems id := by mvcgen [constructItems]
  constructEntries id := by mvcgen [constructEntries]

namespace ValuesWithin

variable {text : Text} {graph : Graph} {bound : Nat} (below : ValuesWithin text graph bound)

include below

theorem construct_succ (id : NodeId) :
    StaysWithin text graph (Making.construct (bound + 1) id) := by
  have constructTagged_ := below.constructTagged
  unfold Making.construct
  mvcgen [constructTagged_]
  case vc5 found _ known _ _ _ state within _ make made =>
    have makes := core_within text graph known.2.1 made
    mvcgen [makes]
    · exact ⟨within.places, within.revises⟩
    next state within _ => exact ⟨within.places, within.revises⟩
  case vc11 found state known _ _ _ make made =>
    have makes := core_within text graph known.2.1 made
    mvcgen [makes]
    · exact ⟨known.1.places, known.1.revises⟩
    next state within _ => exact ⟨within.places, within.revises⟩
  all_goals grind [Workshop.within_iff]

theorem constructTagged_succ (suffix : Text) (id : NodeId) :
    StaysWithin text graph (Making.constructTagged (bound + 1) suffix id) := by
  have constructItems_ := below.constructItems
  have constructEntries_ := below.constructEntries
  unfold Making.constructTagged
  mvcgen [constructItems_, constructEntries_]
  all_goals grind

theorem constructItems_succ (id : NodeId) :
    StaysWithin text graph (Making.constructItems (bound + 1) id) := by
  have construct_ := below.construct
  unfold Making.constructItems
  mvcgen [construct_]
  all_goals grind

theorem constructEntries_succ (id : NodeId) :
    StaysWithin text graph (Making.constructEntries (bound + 1) id) := by
  have construct_ := below.construct
  unfold Making.constructEntries
  mvcgen [construct_, -Spec.foldlM_list]
  all_goals grind

end ValuesWithin

theorem valuesWithin (bound : Nat) : ValuesWithin text graph bound := by
  induction bound with
  | zero => exact valuesWithin_zero text graph
  | succ bound inductionHypothesis =>
    exact ⟨inductionHypothesis.construct_succ, inductionHypothesis.constructTagged_succ,
      inductionHypothesis.constructItems_succ, inductionHypothesis.constructEntries_succ⟩

@[spec]
theorem construct_within (bound : Nat) (id : NodeId) :
    StaysWithin text graph (construct bound id) :=
  (valuesWithin text graph bound).construct id

@[spec]
theorem constructItems_within (bound : Nat) (id : NodeId) :
    StaysWithin text graph (constructItems bound id) :=
  (valuesWithin text graph bound).constructItems id

@[spec]
theorem constructEntries_within (bound : Nat) (id : NodeId) :
    StaysWithin text graph (constructEntries bound id) :=
  (valuesWithin text graph bound).constructEntries id

@[spec]
theorem constructPairs_within (bound : Nat) (what : String) (id : NodeId) :
    StaysWithin text graph (constructPairs bound what id) := by
  mvcgen [constructPairs]
  all_goals grind

@[spec]
theorem filled_within (bound : Nat) (id : NodeId) (filling : Filling) :
    StaysWithin text graph (filled bound id filling) := by
  mvcgen [filled]

@[spec]
theorem fillWaiting_within (depth bound : Nat) :
    StaysWithin text graph (fillWaiting depth bound) := by
  induction bound with
  | zero => mvcgen [fillWaiting]
  | succ bound inductionHypothesis =>
    unfold fillWaiting
    mvcgen [inductionHypothesis]
    all_goals grind [Workshop.within_iff]

end Making

/-- What refuses a value to a document whose nodes start in a text is marked in the text, or is a
node at odds with its tag. -/
theorem Graph.value_within {text : Text} {graph : Graph} {root : NodeId} {failure : Failure}
    (places : ∀ id, (graph.nodeAt id).start.Within text)
    (fails : graph.value root = .error failure) :
    failure.Explained text graph.isAtOdds := by
  have begins : Workshop.Within text graph ⟨graph, [], [], #[], []⟩ :=
    ⟨places, fun id => ⟨rfl, Or.inl rfl, Or.inl rfl⟩⟩
  have keeps : Making.StaysWithin text graph (do
      let datum ← Making.construct (3 * graph.size + 3) root
      Making.fillWaiting (3 * graph.size + 3) (graph.size + 1)
      return datum) := by
    mvcgen
  have ends := keeps.endsWell_run begins
  revert ends fails
  rw [Graph.value]
  generalize StateT.run _ _ = outcome
  intro fails ends
  cases outcome with
  | error reason =>
    cases fails
    exact ends
  | ok made => cases fails

end Yaml

end HomeConfig
