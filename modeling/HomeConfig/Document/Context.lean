import HomeConfig.Document.Template
import HomeConfig.Text.Word

/-!
# The context of a cursor

A document is analysed while it is being typed, when it is seldom well formed.  So the context is
read off the lines themselves: what precedes the cursor on its line, and the bare keys above it.

`enclosingKeys` collects those keys by indentation.  Going upwards, a key line encloses the cursor
when it is indented less than every key line met so far.
-/

namespace HomeConfig

/-- The words that introduce triggers. -/
def triggerWords : List String := ["trigger", "triggers"]

/-- The words that introduce actions. -/
def actionWords : List String := ["action", "actions"]

/-- What surrounds a cursor. -/
structure Context where
  line : Text
  /-- The part of the line before the cursor. -/
  lineBefore : Text
  inKey : Bool
  inValue : Bool
  /-- The key whose value is being typed. -/
  key : Option Text
  /-- The bare keys above, outermost first. -/
  parentKeys : List String
  inList : Bool
  inTemplate : Bool
  triggerType : Option String
  serviceDomain : Option String
deriving DecidableEq, Repr

namespace Context

open Recogniser

/-- The innermost enclosing key. -/
def parentKey (context : Context) : Option String :=
  context.parentKeys.getLast?

/-- Whether some enclosing key introduces triggers. -/
def inTrigger (context : Context) : Bool :=
  context.parentKeys.any triggerWords.contains

/-- Whether some enclosing key introduces actions. -/
def inAction (context : Context) : Bool :=
  context.parentKeys.any actionWords.contains

/-! ## Keys above a line -/

/-- How far a line is indented. -/
def indentOf (line : Text) : Nat :=
  (line.takeWhile Text.isIndent).length

/-- A letter that may start a bare key. -/
def startsKey (c : Char) : Bool :=
  c.isAlpha || c == '_'

/-- A line that starts with a bare key: its indentation and the key. -/
def keyLine? (line : Text) : Option (Nat × String) :=
  let rest := line.dropWhile Text.isIndent
  let key := rest.takeWhile Text.isPlainWord
  match key, (rest.drop key.length).dropWhile Text.isBlank with
  | c :: _, ':' :: _ => if startsKey c then some (indentOf line, String.ofList key) else none
  | _, _ => none

/-- The keys that enclose a line indented by less than `threshold`, innermost first.  The lines
above are given nearest first. -/
def enclosingFrom (threshold : Int) : List Text → List String
  | [] => []
  | line :: above =>
    if threshold = 0 then []
    else match keyLine? line with
      | some (indent, key) =>
        if indent < threshold then key :: enclosingFrom indent above
        else enclosingFrom threshold above
      | none => enclosingFrom threshold above

/-- The bare keys that enclose a line with the given indentation, outermost first. -/
def enclosingKeys (lines : List Text) (line indent : Int) : List String :=
  (enclosingFrom indent (lines.take line.toNat).reverse).reverse

/-! ## Values above a line -/

/-- The type a trigger declares behind its `platform:` or `trigger:` key. -/
def triggerTypeHere (before : Option Char) : Recogniser Excerpt := do
  require (Text.wordMayStart before)
  firstOf [literal "platform:".toList, literal "trigger:".toList]
  skip Text.isBlank
  let name ← run1 Text.isWord
  require (name.text.head?.any startsKey)
  pure name

/-- The domain of a service named behind a `service:` or `action:` key. -/
def serviceDomainHere (before : Option Char) : Recogniser Excerpt := do
  require (Text.wordMayStart before)
  firstOf [literal "service:".toList, literal "action:".toList]
  skip Text.isBlank
  skipOne Text.isQuote
  let domain ← run1 Text.isWord
  require (domain.text.head?.any startsKey)
  literal ['.']
  let _ ← one Text.isWord
  pure domain

/-- The nearest find at or above a line. -/
def searchUpward (lines : List Text) (line : Int) (find : Option Char → Recogniser Excerpt) :
    Option String :=
  ((lines.take (line + 1).toNat).reverse.findSome? (Text.search find)).map
    (String.ofList ·.text)

/-! ## The cursor's own line -/

/-- What precedes the first colon that is not escaped by a backslash. -/
def beforeSeparator? (previous : Option Char) : Text → Option Text
  | [] => none
  | c :: rest =>
    if c = ':' ∧ previous ≠ some '\\' then some []
    else (beforeSeparator? (some c) rest).map (c :: ·)

/-- The key in front of a separator, without the dash of a list item. -/
def keyOf (text : Text) : Text :=
  match Text.trim text with
  | '-' :: rest => Text.trimStart rest
  | trimmed => trimmed

/-- The context at a line and a column of a document.  The column may be signed, as an offset of
the line. -/
def ofCursor (text : Text) (line character : Int) : Context :=
  let current := Text.lineAt text line
  let lineBefore := Text.before current character
  let separated := beforeSeparator? none lineBefore
  let context : Context := {
    line := current
    lineBefore := lineBefore
    inKey := separated.isNone
    inValue := separated.isSome
    key := separated.map keyOf
    parentKeys := enclosingKeys (Text.lines text) line (indentOf lineBefore)
    inList := (Text.trimStart lineBefore).head? == some '-'
    inTemplate := Document.isInsideTemplate lineBefore
    triggerType := none
    serviceDomain := none }
  { context with
    triggerType :=
      if context.inTrigger then searchUpward (Text.lines text) line triggerTypeHere else none
    serviceDomain :=
      if context.inAction then searchUpward (Text.lines text) line serviceDomainHere else none }

end Context

end HomeConfig
