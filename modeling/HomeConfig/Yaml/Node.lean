import HomeConfig.Yaml.Schema
import HomeConfig.Yaml.Token

/-!
# Nodes

The nodes of a document form a graph: an alias is the node its anchor names, so a node can be
reached more than once, and a collection can contain itself.  Nodes are therefore numbered, and
collections hold numbers.

`Graph.next?` puts the tokens of one document together.  It reads the grammar from the outside in,
and fails at the first token that does not fit, at an alias without an anchor, or at the failure of
the token stream when it gets there.
-/

namespace HomeConfig

namespace Yaml

/-- The number of a node in its graph. -/
abbrev NodeId := Nat

/-- What a node holds. -/
inductive Content
  | scalar (text : Text)
  | sequence (items : List NodeId)
  | mapping (entries : List (NodeId × NodeId))
deriving DecidableEq, Repr

/-- How a message names what a node holds. -/
def Content.name : Content → String
  | .scalar _ => "scalar"
  | .sequence _ => "sequence"
  | .mapping _ => "mapping"

/-- A node with its tag and the place where it starts. -/
structure Node where
  tag : String
  start : Mark
  content : Content
deriving DecidableEq, Repr

/-- The nodes of a document; a node is found by its number. -/
abbrev Graph := Array Node

/-- The state while tokens are put together. -/
structure Assembly where
  tokens : List Token
  failure : Option Failure
  graph : Graph
  anchors : List (String × NodeId)
  /-- What the tag handles stand for. -/
  handles : List (String × String)

/-- A step of putting tokens together. -/
abbrev Assembling := StateT Assembly (Except Failure)

namespace Assembling

/-- Refuse the document for its structure. -/
def fail {α : Type} (context : Option String) (problem : String) (mark : Mark) :
    Assembling α :=
  throw (.syntaxError (.marked .nesting context problem mark))

/-- The next token. -/
def peek : Assembling Token := do
  let s ← get
  match s.tokens, s.failure with
  | token :: _, _ => return token
  | [], some failure => throw failure
  | [], none => return ⟨.streamEnd, Mark.start, Mark.start⟩

/-- Take the next token. -/
def take : Assembling Token := do
  let token ← peek
  modify fun s => { s with tokens := s.tokens.tail }
  return token

/-- The kind of the next token. -/
def peekKind : Assembling TokenKind :=
  return (← peek).kind

/-- Add a node, under an anchor if there is one. -/
def add (node : Node) (anchor : Option String) : Assembling NodeId := do
  let id := (← get).graph.size
  modify fun s => { s with
    graph := s.graph.push node
    anchors := match anchor with
      | some name => (name, id) :: s.anchors
      | none => s.anchors }
  return id

/-- Set what a node holds. -/
def fill (id : NodeId) (content : Content) : Assembling Unit :=
  modify fun s => { s with graph := s.graph.modify id fun node => { node with content := content } }

/-- The node that stands where a value is left out. -/
def emptyNode (mark : Mark) : Assembling NodeId :=
  add ⟨Schema.plainTag [], mark, .scalar []⟩ none

/-- The anchor and the tag in front of a node, and where the first of them starts. -/
structure Properties where
  anchor : Option String
  tag : Option String
  start : Option Mark

/-- An anchor, if one stands here. -/
def anchor? : Assembling (Option (String × Mark)) := do
  match ← peekKind with
  | .anchor name => return some (name, (← take).start)
  | _ => return none

/-- A tag, if one stands here. -/
def tag? : Assembling (Option (Option String × String × Mark)) := do
  match ← peekKind with
  | .tag handle suffix => return some (handle, suffix, (← take).start)
  | _ => return none

/-- The anchor and the tag that stand here, in either order. -/
def properties : Assembling Properties := do
  let first ← anchor?
  let tag ← tag?
  let anchor ← if first.isNone && tag.isSome then anchor? else pure first
  let start := match first, tag with
    | some (_, mark), _ => some mark
    | none, some (_, _, mark) => some mark
    | none, none => none
  let resolved ← (do
    match tag with
    | none => pure none
    | some (none, suffix, _) => pure (some suffix)
    | some (some handle, suffix, mark) =>
      match (← get).handles.lookup handle with
      | some tagPrefix => pure (some (tagPrefix ++ suffix))
      | none =>
        fail (some "while parsing a node")
          ("found undefined tag handle " ++ Text.quotedString handle) mark)
  return ⟨anchor.map (·.1), resolved, start⟩

/-- Refuse an anchor that is already in use. -/
def checkAnchor (anchor : Option String) (mark : Mark) : Assembling Unit := do
  if let some name := anchor then
    if ((← get).anchors.lookup name).isSome then
      throw (.syntaxError (.marked .references
        (some ("found duplicate anchor " ++ Text.quotedString name ++ "; first occurrence"))
        "second occurrence" mark))

/-- Whether a tag leaves the choice to the content: there is none, or an exclamation mark. -/
def isOpen (tag : Option String) : Bool :=
  tag.all (· == "!")

/-- The tag of a scalar. -/
def scalarTag (tag : Option String) (style : ScalarStyle) (text : Text) : String :=
  match tag with
  | none => if style = .plain then Schema.plainTag text else coreTag "str"
  | some "!" => Schema.plainTag text
  | some tag => tag

/-- The tag of a collection. -/
def collectionTag (tag : Option String) (standard : String) : String :=
  if isOpen tag then coreTag standard else tag.getD (coreTag standard)

mutual

/-- A node: an alias, or properties and content.  Only a block admits block collections, and only
where `indentless` holds may the entries of a sequence stand without a block of their own. -/
def node (block indentless : Bool) : (bound : Nat) → Assembling NodeId
  | 0 => do fail none "document nested too deeply" (← peek).start
  | bound + 1 => do
    let token ← peek
    if let .alias name := token.kind then
      let _ ← take
      match (← get).anchors.lookup name with
      | some id => return id
      | none =>
        throw (.syntaxError (.marked .references none
          ("found undefined alias " ++ Text.quotedString name) token.start))
    let props ← properties
    let token ← peek
    let start := props.start.getD token.start
    let collection (tag : String) (content : Content) : Assembling NodeId := do
      checkAnchor props.anchor start
      add ⟨collectionTag props.tag tag, start, content⟩ props.anchor
    match token.kind, block, indentless with
    | .blockEntry, _, true => do
      let id ← collection "seq" (.sequence [])
      fill id (.sequence (← indentlessEntries bound))
      return id
    | .scalar text style, _, _ => do
      let _ ← take
      checkAnchor props.anchor start
      add ⟨scalarTag props.tag style text, start, .scalar text⟩ props.anchor
    | .flowSequenceStart, _, _ => do
      let id ← collection "seq" (.sequence [])
      fill id (.sequence (← flowItems (← take).start true bound))
      return id
    | .flowMappingStart, _, _ => do
      let id ← collection "map" (.mapping [])
      fill id (.mapping (← flowEntries (← take).start true bound))
      return id
    | .blockSequenceStart, true, _ => do
      let id ← collection "seq" (.sequence [])
      fill id (.sequence (← blockItems (← take).start bound))
      return id
    | .blockMappingStart, true, _ => do
      let id ← collection "map" (.mapping [])
      fill id (.mapping (← blockEntries (← take).start bound))
      return id
    | kind, _, _ =>
      if props.anchor.isSome || props.tag.isSome then do
        checkAnchor props.anchor start
        add ⟨if isOpen props.tag then Schema.plainTag [] else props.tag.getD "", start,
          .scalar []⟩ props.anchor
      else
        fail (some (if block then "while parsing a block node" else "while parsing a flow node"))
          ("expected the node content, but found " ++ Text.quotedString kind.name) token.start

/-- The items of a block sequence up to its end. -/
def blockItems (start : Mark) : (bound : Nat) → Assembling (List NodeId)
  | 0 => return []
  | bound + 1 => do
    let token ← take
    match token.kind with
    | .blockEntry =>
      let item ← (do
        match ← peekKind with
        | .blockEntry => emptyNode token.stop
        | .blockEnd => emptyNode token.stop
        | _ => node true false bound)
      return item :: (← blockItems start bound)
    | .blockEnd => return []
    | kind =>
      fail (some "while parsing a block collection")
        ("expected <block end>, but found " ++ Text.quotedString kind.name) token.start

/-- The items of a sequence that has no block of its own. -/
def indentlessEntries : (bound : Nat) → Assembling (List NodeId)
  | 0 => return []
  | bound + 1 => do
    match ← peekKind with
    | .blockEntry =>
      let token ← take
      let item ← (do
        match ← peekKind with
        | .blockEntry => emptyNode token.stop
        | .key => emptyNode token.stop
        | .value => emptyNode token.stop
        | .blockEnd => emptyNode token.stop
        | _ => node true false bound)
      return item :: (← indentlessEntries bound)
    | _ => return []

/-- The entries of a block mapping up to its end. -/
def blockEntries (start : Mark) : (bound : Nat) → Assembling (List (NodeId × NodeId))
  | 0 => return []
  | bound + 1 => do
    let token ← peek
    let part (token : Token) : Assembling NodeId := do
      match ← peekKind with
      | .key => emptyNode token.stop
      | .value => emptyNode token.stop
      | .blockEnd => emptyNode token.stop
      | _ => node true true bound
    let value : Assembling NodeId := do
      match ← peek with
      | ⟨.value, _, _⟩ => part (← take)
      | token => emptyNode token.start
    match token.kind with
    | .key =>
      let _ ← take
      let key ← part token
      let value ← value
      return (key, value) :: (← blockEntries start bound)
    | .blockEnd =>
      let _ ← take
      return []
    | kind =>
      fail (some "while parsing a block mapping")
        ("expected <block end>, but found " ++ Text.quotedString kind.name) token.start

/-- The items of a flow sequence up to its end.  An item may be a single entry of a mapping. -/
def flowItems (start : Mark) (first : Bool) : (bound : Nat) → Assembling (List NodeId)
  | 0 => return []
  | bound + 1 => do
    let part (token : Token) : Assembling NodeId := do
      match ← peekKind with
      | .value => emptyNode token.stop
      | .flowEntry => emptyNode token.stop
      | .flowSequenceEnd => emptyNode token.stop
      | _ => node false false bound
    let pair : Assembling NodeId := do
      let token ← peek
      let id ← add ⟨coreTag "map", token.start, .mapping []⟩ none
      let key ← part (← take)
      let value ← (do
        match ← peek with
        | ⟨.value, _, _⟩ =>
          let token ← take
          match ← peekKind with
          | .flowEntry => emptyNode token.stop
          | .flowSequenceEnd => emptyNode token.stop
          | _ => node false false bound
        | token => emptyNode token.start)
      fill id (.mapping [(key, value)])
      return id
    let token ← peek
    if let .flowSequenceEnd := token.kind then
      let _ ← take
      return []
    if !first then
      match token.kind with
      | .flowEntry =>
        let _ ← take
      | kind =>
        fail (some "while parsing a flow sequence")
          ("expected ',' or ']', but got " ++ Text.quotedString kind.name) token.start
    match ← peekKind with
    | .key =>
      let item ← pair
      return item :: (← flowItems start false bound)
    | .flowSequenceEnd =>
      let _ ← take
      return []
    | _ =>
      let item ← node false false bound
      return item :: (← flowItems start false bound)

/-- The entries of a flow mapping up to its end.  An entry may lack its value. -/
def flowEntries (start : Mark) (first : Bool) :
    (bound : Nat) → Assembling (List (NodeId × NodeId))
  | 0 => return []
  | bound + 1 => do
    let value : Assembling NodeId := do
      match ← peek with
      | ⟨.value, _, _⟩ =>
        let token ← take
        match ← peekKind with
        | .flowEntry => emptyNode token.stop
        | .flowMappingEnd => emptyNode token.stop
        | _ => node false false bound
      | token => emptyNode token.start
    let token ← peek
    if let .flowMappingEnd := token.kind then
      let _ ← take
      return []
    if !first then
      match token.kind with
      | .flowEntry =>
        let _ ← take
      | kind =>
        fail (some "while parsing a flow mapping")
          ("expected ',' or '\x7d', but got " ++ Text.quotedString kind.name) token.start
    match ← peekKind with
    | .key =>
      let token ← take
      let key ← (do
        match ← peekKind with
        | .value => emptyNode token.stop
        | .flowEntry => emptyNode token.stop
        | .flowMappingEnd => emptyNode token.stop
        | _ => node false false bound)
      let value ← value
      return (key, value) :: (← flowEntries start false bound)
    | .flowMappingEnd =>
      let _ ← take
      return []
    | _ =>
      let key ← node false false bound
      let value ← emptyNode (← peek).start
      return (key, value) :: (← flowEntries start false bound)

end

/-- The handles every document knows. -/
def standardHandles : List (String × String) :=
  [("!", "!"), ("!!", "tag:yaml.org,2002:")]

/-- Read directives; `version` says whether one for the version has been read. -/
def directives (version : Bool) (handles : List (String × String)) :
    (bound : Nat) → Assembling (List (String × String))
  | 0 => return handles
  | bound + 1 => do
    let token ← peek
    match token.kind with
    | .versionDirective major _ =>
      let _ ← take
      if version then fail none "found duplicate YAML directive" token.start
      if major ≠ 1 then
        fail none "found incompatible YAML document (version 1.* is required)" token.start
      directives true handles bound
    | .tagDirective handle tagPrefix =>
      let _ ← take
      if (handles.lookup handle).isSome then
        fail none ("duplicate tag handle " ++ Text.quotedString handle) token.start
      directives version (handles ++ [(handle, tagPrefix)]) bound
    | .otherDirective =>
      let _ ← take
      directives version handles bound
    | _ => return handles

/-- Move over the marks at the end of a document. -/
def skipDocumentEnds : (bound : Nat) → Assembling Unit
  | 0 => pure ()
  | bound + 1 => do
    if let .documentEnd ← peekKind then
      let _ ← take
      skipDocumentEnds bound

/-- The content of a document and the mark at its end. -/
def finish (content : Assembling NodeId) : Assembling (Option NodeId) := do
  let root ← content
  if let .documentEnd ← peekKind then
    let _ ← take
  return some root

/-- A document that is announced by directives or a mark; `none` at the end of the stream. -/
def announced (bound : Nat) : Assembling (Option NodeId) := do
  skipDocumentEnds bound
  if let .streamEnd ← peekKind then return none
  let handles ← directives false [] bound
  modify fun s => { s with handles := handles ++ standardHandles }
  let token ← peek
  if token.kind ≠ .documentStart then
    fail none ("expected '<document start>', but found " ++ Text.quotedString token.kind.name)
      token.start
  let _ ← take
  finish do
    let token ← peek
    match token.kind with
    | .versionDirective _ _ => emptyNode token.start
    | .tagDirective _ _ => emptyNode token.start
    | .otherDirective => emptyNode token.start
    | .documentStart => emptyNode token.start
    | .documentEnd => emptyNode token.start
    | .streamEnd => emptyNode token.start
    | _ => node true false bound

/-- The next document; the first one need not be announced. -/
def document (first : Bool) (bound : Nat) : Assembling (Option NodeId) := do
  modify fun s => { s with graph := #[], anchors := [] }
  if first then
    match (← peek).kind with
    | .versionDirective _ _ => announced bound
    | .tagDirective _ _ => announced bound
    | .otherDirective => announced bound
    | .documentStart => announced bound
    | .streamEnd => announced bound
    | _ =>
      modify fun s => { s with handles := standardHandles }
      finish (node true false bound)
  else announced bound

end Assembling

namespace Graph

/-- The state in front of the first document of a token stream. -/
def begin (stream : TokenStream) : Assembly where
  tokens := stream.tokens.tail
  failure := stream.failure
  graph := #[]
  anchors := []
  handles := []

/-- The next document: its graph, the node it starts from, and the state behind it; `none` when
there is none. -/
def next? (first : Bool) (state : Assembly) :
    Except Failure (Option (Graph × NodeId × Assembly)) := do
  let bound := 4 * state.tokens.length + 8
  match ← (Assembling.document first bound).run state with
  | (some root, after) => return some (after.graph, root, after)
  | (none, _) => return none

end Graph

end Yaml

end HomeConfig
