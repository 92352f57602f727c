import HomeConfig.Text.Position
import HomeConfig.Text.Word

/-!
# References

A document refers to entities, services, files and secrets by name.  Each kind of reference has
one shape that is looked for in the whole text, independently of the others:

* an entity behind `entity_id:`, `entity:` or `entities:`, or as an item of the list below such a
  key, or as the first argument of `states(...)` and `is_state(...)` in a template;
* a service behind `service:` or `action:`;
* a file behind `!include`, a directory behind one of the four `!include_dir_` tags;
* a secret behind `!secret`.

The range of a reference covers the name alone, without quotes.
-/

namespace HomeConfig

/-- What a reference names. -/
inductive Reference.Kind
  | entity
  | service
  | file
  | directory
  | secret
deriving DecidableEq, Repr

/-- One occurrence of a name in a document. -/
structure Reference where
  kind : Reference.Kind
  value : String
  range : Range
  inTemplate : Bool
deriving DecidableEq, Repr

namespace Reference

open Recogniser

/-- The keys whose values are entities. -/
def entityKeys : List String := ["entity_id", "entities", "entity"]

/-- The keys whose value is a service. -/
def serviceKeys : List String := ["service", "action"]

/-! ## Shapes -/

/-- A dotted name behind one of the given keys, on the same line. -/
def valueOf (keys : List String) (before : Option Char) : Recogniser (List Excerpt) := do
  require (Text.wordMayStart before)
  anyKeyword keys
  literal [':']
  skip Text.isIndent
  skipOne Text.isQuote
  let name ← dottedName
  ahead Text.wordMayEnd
  pure [name]

/-- One line of a block list that holds a dotted name, with the end of the line. -/
def listItem : Recogniser Excerpt := do
  skip Text.isIndent
  literal ['-']
  let _ ← run1 Text.isIndent
  skipOne Text.isQuote
  let name ← dottedName
  skipOne Text.isQuote
  skip Text.isIndent
  firstOf [literal ['\n'], ahead Option.isNone]
  pure name

/-- As many list items as follow each other.  Each one is at least a line long, so the length of
the text bounds their number. -/
def listItems : Nat → Recogniser (List Excerpt)
  | 0 => pure []
  | bound + 1 => firstOf [do
      let name ← listItem
      let others ← listItems bound
      pure (name :: others), pure []]

/-- The dotted names of a block list below one of the given keys. -/
def listBelow (keys : List String) (before : Option Char) : Recogniser (List Excerpt) := do
  require (Text.wordMayStart before)
  anyKeyword keys
  literal [':']
  skip Text.isIndent
  literal ['\n']
  let cursor ← get
  let names ← listItems cursor.rest.length
  require !names.isEmpty
  pure names

/-- A quoted dotted name as the first argument of a call; `alone` asks for the closing bracket
right behind it. -/
def argumentOf (function : String) (alone : Bool) (before : Option Char) :
    Recogniser (List Excerpt) := do
  require (Text.wordMayStart before)
  keyword function
  literal ['(']
  skip Text.isBlank
  let _ ← one Text.isQuote
  let name ← dottedName
  let _ ← one Text.isQuote
  if alone then
    skip Text.isBlank
    literal [')']
  pure [name]

/-- A path behind one of the given tags. -/
def pathBehind (tags : List String) (_before : Option Char) : Recogniser (List Excerpt) := do
  firstOf (tags.map fun tag => do
    literal tag.toList
    let _ ← run1 Text.isIndent)
  skipOne Text.isQuote
  let path ← run1 fun c => !Text.isBlank c && !Text.isQuote c
  pure [path]

/-- A name behind the secret tag. -/
def secretName (_before : Option Char) : Recogniser (List Excerpt) := do
  literal "!secret".toList
  let _ ← run1 Text.isIndent
  let name ← run1 Text.isWord
  pure [name]

/-! ## Finding -/

/-- The reference to an excerpt of a text. -/
def ofExcerpt (text : Text) (kind : Kind) (inTemplate : Bool) (excerpt : Excerpt) : Reference where
  kind := kind
  value := String.ofList excerpt.text
  range := Range.ofOffsets text excerpt.start excerpt.stop
  inTemplate := inTemplate

/-- All references of one shape, from left to right. -/
def find (kind : Kind) (shape : Option Char → Recogniser (List Excerpt)) (text : Text)
    (inTemplate : Bool := false) : List Reference :=
  (Text.scan shape text).flatten.map (ofExcerpt text kind inTemplate)

/-- The entities a document refers to: first those behind a key, then those in lists, then those
in templates. -/
def entities (text : Text) : List Reference :=
  find .entity (valueOf entityKeys) text ++
  find .entity (listBelow entityKeys) text ++
  find .entity (argumentOf "states" true) text true ++
  find .entity (argumentOf "is_state" false) text true

/-- The services a document refers to. -/
def services (text : Text) : List Reference :=
  find .service (valueOf serviceKeys) text

/-- The tags that include a directory. -/
def directoryTags : List String :=
  ["list", "named", "merge_list", "merge_named"].map ("!include_dir_" ++ ·)

/-- The files a document includes, then the directories. -/
def includes (text : Text) : List Reference :=
  find .file (pathBehind ["!include"]) text ++
  find .directory (pathBehind directoryTags) text

/-- The secrets a document uses. -/
def secrets (text : Text) : List Reference :=
  find .secret secretName text

end Reference

end HomeConfig
