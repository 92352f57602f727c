import HomeConfig.Yaml.Node
import HomeConfig.Yaml.Value

/-!
# From nodes to values

The tag of a node decides what value it becomes.  A collection is put on the heap empty and filled
later, in the order in which the collections were met, level by level; so a collection may contain
itself.  A collection with a tag of the configuration language is the exception: it is built at
once, and cannot contain itself.

Merge keys are resolved just before a mapping is filled.  The merged entries come first, so the
entries of the mapping itself win.
-/

namespace HomeConfig

namespace Yaml

/-- What a collection that waits on the heap will be filled with. -/
inductive Filling
  | list
  | mapping
  | set
  /-- A list of single-entry mappings as pairs; `what` names it in messages. -/
  | pairs (what : String)
deriving DecidableEq, Repr

/-- The state of construction. -/
structure Workshop where
  graph : Graph
  /-- The nodes that have become values. -/
  made : List (NodeId × Datum)
  /-- The nodes that are becoming values. -/
  inProgress : List NodeId
  heap : Heap
  /-- The collections that wait to be filled. -/
  waiting : List (Nat × NodeId × Filling)

/-- A step of construction. -/
abbrev Making := StateT Workshop (Except Failure)

namespace Making

/-- Refuse the document for a value. -/
def fail {α : Type} (context : Option String) (problem : String) (mark : Mark) : Making α :=
  throw (.syntaxError (.marked .values context problem mark))

/-- A node by its number. -/
def node (id : NodeId) : Making Node := do
  match (← get).graph[id]? with
  | some node => return node
  | none => return ⟨"", Mark.start, .scalar []⟩

/-- Change a node. -/
def change (id : NodeId) (f : Node → Node) : Making Unit :=
  modify fun s => { s with graph := s.graph.modify id f }

/-- Put a collection on the heap. -/
def allocate (collection : Collection) : Making Nat := do
  let place := (← get).heap.size
  modify fun s => { s with heap := s.heap.push collection }
  return place

/-- Put an empty collection on the heap, to be filled later. -/
def postpone (id : NodeId) (empty : Collection) (filling : Filling) : Making Datum := do
  let place ← allocate empty
  modify fun s => { s with waiting := s.waiting ++ [(place, id, filling)] }
  return .held place

/-- The text of a scalar.  A mapping with a default value stands for that value. -/
def scalarText : (bound : Nat) → NodeId → Making Text
  | 0, _ => return []
  | bound + 1, id => do
    let found ← node id
    let refuse : Making Text :=
      fail none ("expected a scalar node, but found " ++ found.content.name) found.start
    match found.content with
    | .scalar text => return text
    | .sequence _ => refuse
    | .mapping entries =>
      let graph := (← get).graph
      let isDefault (entry : NodeId × NodeId) : Bool :=
        graph[entry.1]?.any (·.tag == coreTag "value")
      match entries.find? isDefault with
      | some (_, value) => scalarText bound value
      | none => refuse

/-- The entries of a mapping node. -/
def entriesOf (id : NodeId) : Making (List (NodeId × NodeId)) := do
  match (← node id).content with
  | .mapping entries => return entries
  | _ => return []

/-- Set the entries of a mapping node. -/
def setEntries (id : NodeId) (entries : List (NodeId × NodeId)) : Making Unit :=
  change id fun node => { node with content := .mapping entries }

/-- Resolve the merge keys of a mapping from the entry at `index` on; `merged` are the entries
merged so far. -/
def resolveMerges (id : NodeId) : (bound : Nat) → (index : Nat) →
    (merged : List (NodeId × NodeId)) → Making Unit
  | 0, _, _ => pure ()
  | bound + 1, index, merged => do
    let entries ← entriesOf id
    match entries[index]? with
    | none => if !merged.isEmpty then setEntries id (merged ++ entries)
    | some (key, value) =>
      let tag := (← node key).tag
      if tag = coreTag "merge" then
        setEntries id (entries.eraseIdx index)
        let context := some "while constructing a mapping"
        let source ← node value
        match source.content with
        | .mapping _ =>
          resolveMerges value bound 0 []
          resolveMerges id bound index (merged ++ (← entriesOf value))
        | .sequence items =>
          let parts ← items.mapM fun item => do
            let part ← node item
            match part.content with
            | .mapping _ =>
              resolveMerges item bound 0 []
              entriesOf item
            | content =>
              fail context ("expected a mapping for merging, but found " ++ content.name)
                part.start
          resolveMerges id bound index (merged ++ parts.reverse.flatten)
        | content =>
          fail context
            ("expected a mapping or list of mappings for merging, but found " ++ content.name)
            source.start
      else
        if tag = coreTag "value" then change key fun node => { node with tag := coreTag "str" }
        resolveMerges id bound (index + 1) merged

/-- The number of entries of all mappings, which bounds the resolution of merge keys. -/
def entryCount (graph : Graph) : Nat :=
  graph.toList.foldr (fun node count => match node.content with
    | .mapping entries => entries.length + count
    | _ => count) 0

/-- The text of a scalar, with the number of nodes as bound. -/
def textOf (id : NodeId) : Making Text := do
  scalarText ((← get).graph.size + 1) id

/-- Turn a fault of content into a failure. -/
def orFail (read : Except ContentFault Scalar) : Making Datum :=
  match read with
  | .ok value => return .scalar value
  | .error fault => throw (.content fault)

/-- A scalar with one of the tags of the core schema; `none` for other tags. -/
def coreScalar? (tag : String) (id : NodeId) : Option (Making Datum) :=
  if tag = coreTag "null" then some do
    let _ ← textOf id
    return .scalar .null
  else if tag = coreTag "bool" then some do orFail (Scalar.readBool (← textOf id))
  else if tag = coreTag "int" then some do orFail (Scalar.readInteger (← textOf id))
  else if tag = coreTag "float" then some do orFail (Scalar.readNumber (← textOf id))
  else if tag = coreTag "binary" then some do
    match Scalar.readBytes (← textOf id) with
    | .ok value => return .scalar value
    | .error problem => fail none problem (← node id).start
  else if tag = coreTag "timestamp" then some do
    let text ← textOf id
    match (← node id).content with
    | .scalar _ => orFail (Scalar.readTimestamp text)
    | _ => throw (.content .notText)
  else if tag = coreTag "str" then some do return .scalar (.text (← textOf id))
  else none

/-- A collection with one of the tags of the core schema; `none` for other tags. -/
def coreCollection? (tag : String) (id : NodeId) : Option (Making Datum) :=
  if tag = coreTag "omap" then
    some (postpone id (.pairs []) (.pairs "while constructing an ordered map"))
  else if tag = coreTag "pairs" then
    some (postpone id (.pairs []) (.pairs "while constructing pairs"))
  else if tag = coreTag "set" then some (postpone id (.set []) .set)
  else if tag = coreTag "seq" then some (postpone id (.list []) .list)
  else if tag = coreTag "map" then some (postpone id (.mapping []) .mapping)
  else none

mutual

/-- The datum a node becomes. -/
def construct : (bound : Nat) → NodeId → Making Datum
  | 0, _ => return .scalar .null
  | bound + 1, id => do
    if let some datum := (← get).made.lookup id then return datum
    let found ← node id
    if (← get).inProgress.contains id then
      fail none "found unconstructable recursive node" found.start
    modify fun s => { s with inProgress := id :: s.inProgress }
    let datum ← (match (coreScalar? found.tag id).or (coreCollection? found.tag id) with
      | some make => make
      | none =>
        match found.tag.toList with
        | '!' :: suffix => constructTagged bound suffix id
        | _ =>
          fail none
            ("could not determine a constructor for the tag " ++ Text.quotedString found.tag)
            found.start)
    modify fun s => { s with
      made := (id, datum) :: s.made
      inProgress := s.inProgress.erase id }
    return datum

/-- The datum of a node with a tag of the configuration language: a scalar keeps its tag in its
text, a collection becomes a plain one. -/
def constructTagged : (bound : Nat) → (suffix : Text) → NodeId → Making Datum
  | 0, _, _ => return .scalar .null
  | bound + 1, suffix, id => do
    match (← node id).content with
    | .scalar text => return .scalar (.text ('!' :: suffix ++ ' ' :: text))
    | .sequence _ => return .held (← allocate (.list (← constructItems bound id)))
    | .mapping _ => return .held (← allocate (.mapping (← constructEntries bound id)))

/-- The data of the items of a sequence. -/
def constructItems : (bound : Nat) → NodeId → Making (List Datum)
  | 0, _ => return []
  | bound + 1, id => do
    let found ← node id
    match found.content with
    | .sequence items => items.mapM (construct bound)
    | content => fail none ("expected a sequence node, but found " ++ content.name) found.start

/-- The data of the entries of a mapping, each key once. -/
def constructEntries : (bound : Nat) → NodeId → Making (List (Datum × Datum))
  | 0, _ => return []
  | bound + 1, id => do
    let found ← node id
    match found.content with
    | .mapping _ =>
      let graph := (← get).graph
      resolveMerges id (entryCount graph + graph.size + 1) 0 []
      (← entriesOf id).foldlM (fun entries (keyId, valueId) => do
        let key ← construct bound keyId
        if let .held _ := key then
          fail (some "while constructing a mapping") "found unhashable key" (← node keyId).start
        let value ← construct bound valueId
        return Collection.insert key value entries) []
    | content => fail none ("expected a mapping node, but found " ++ content.name) found.start

end

/-- The pairs of a sequence of single-entry mappings. -/
def constructPairs (bound : Nat) (what : String) (id : NodeId) : Making (List (Datum × Datum)) := do
  let found ← node id
  match found.content with
  | .sequence items => items.mapM fun item => do
    let part ← node item
    match part.content with
    | .mapping [(key, value)] => return (← construct bound key, ← construct bound value)
    | .mapping entries =>
      fail (some what) s!"expected a single mapping item, but found {entries.length} items"
        part.start
    | content =>
      fail (some what) ("expected a mapping of length 1, but found " ++ content.name) part.start
  | content => fail (some what) ("expected a sequence, but found " ++ content.name) found.start

/-- What fills a collection. -/
def filled (bound : Nat) (id : NodeId) : Filling → Making Collection
  | .list => return .list (← constructItems bound id)
  | .mapping => return .mapping (← constructEntries bound id)
  | .set => return .set ((← constructEntries bound id).map (·.1))
  | .pairs what => return .pairs (← constructPairs bound what id)

/-- Fill the collections that wait, those met while filling behind the others. -/
def fillWaiting (depth : Nat) : (bound : Nat) → Making Unit
  | 0 => pure ()
  | bound + 1 => do
    match (← get).waiting with
    | [] => pure ()
    | (place, id, filling) :: others =>
      modify fun s => { s with waiting := others }
      let collection ← filled depth id filling
      modify fun s => { s with heap := s.heap.set! place collection }
      fillWaiting depth bound

end Making

namespace Graph

/-- The value of the node that a document starts from.  A node in progress is not entered again,
so three levels of recursion for each node are enough. -/
def value (graph : Graph) (root : NodeId) : Except Failure Value := do
  let depth := 3 * graph.size + 3
  let make : Making Datum := do
    let datum ← Making.construct depth root
    Making.fillWaiting depth (graph.size + 1)
    return datum
  let (datum, workshop) ← make.run ⟨graph, [], [], #[], []⟩
  return workshop.heap.value datum

end Graph

end Yaml

end HomeConfig
