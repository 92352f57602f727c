import HomeConfig.Text.Class.Blank
import HomeConfig.Text.Recogniser

/-!
# Settings files

A settings file binds names to values, one binding on a line:

* `NAME=value`, with blanks around the sign, and `export` in front of the name;
* a value in double quotes, with the usual escapes, or in single quotes, where only the quote and
  the backslash are escaped; both may span lines;
* any other value ends at the end of the line, or at a `#` behind a blank;
* a name without a sign binds nothing.

A line that is none of these is skipped.  In a value, a name in braces behind a dollar sign
stands for the value of that name, with a default behind `:-`.
-/

namespace HomeConfig

namespace EnvironmentFile

open Recogniser

/-- A blank inside a line. -/
def isGap (c : Char) : Bool :=
  Text.isBlank c && c != '\r' && c != '\n'

/-- A character that does not end a line. -/
def isInline (c : Char) : Bool :=
  c != '\r' && c != '\n'

/-! ## Values -/

/-- What stands before a closing quote.  A quote behind a backslash closes only if no other one
does. -/
def quotedPart (quote : Char) : Text → Option (Text × Text)
  | [] => none
  | [c] => if c = quote then some ([], []) else none
  | c :: next :: rest =>
    if c = quote then some ([], next :: rest)
    else if c = '\\' ∧ next = quote then
      match quotedPart quote rest with
      | some (value, after) => some (c :: next :: value, after)
      | none => some ([c], rest)
    else (quotedPart quote (next :: rest)).map fun (value, after) => (c :: value, after)

/-- The escapes between double quotes. -/
def doubleEscapes : List (Char × Char) :=
  [('\\', '\\'), ('\'', '\''), ('"', '"'), ('a', '\x07'), ('b', '\x08'), ('f', '\x0c'),
   ('n', '\n'), ('r', '\r'), ('t', '\t'), ('v', '\x0b')]

/-- The escapes between single quotes. -/
def singleEscapes : List (Char × Char) :=
  [('\\', '\\'), ('\'', '\'')]

/-- A text with its escapes replaced; `escaped` tells that a backslash was just passed. -/
def unescape (escapes : List (Char × Char)) : (escaped : Bool) → Text → Text
  | false, [] => []
  | true, [] => ['\\']
  | false, c :: rest =>
    if c = '\\' then unescape escapes true rest else c :: unescape escapes false rest
  | true, c :: rest =>
    match List.lookup c escapes with
    | some meaning => meaning :: unescape escapes false rest
    | none =>
      if c = '\\' then '\\' :: unescape escapes true rest
      else '\\' :: c :: unescape escapes false rest

/-- A value without its comment: what precedes the first `#` behind a blank. -/
def dropComment (previous : Option Char) : Text → Text
  | [] => []
  | c :: rest =>
    if c = '#' ∧ previous.any Text.isBlank then [] else c :: dropComment (some c) rest

/-- A value in quotes of the given kind. -/
def quotedValue (quote : Char) (escapes : List (Char × Char)) : Recogniser Text := fun cursor =>
  match cursor.rest with
  | [] => none
  | _ :: inside => (quotedPart quote inside).map fun (value, after) =>
    (unescape escapes false value,
      ⟨cursor.offset + (cursor.rest.length - after.length), after⟩)

/-- A value. -/
def value : Recogniser Text := do
  match (← get).rest.head? with
  | some '\'' => quotedValue '\'' singleEscapes
  | some '"' => quotedValue '"' doubleEscapes
  | _ =>
    let found ← run isInline
    let kept := dropComment none found.text
    pure (kept.reverse.dropWhile Text.isBlank).reverse

/-! ## Bindings -/

/-- The name that a line binds; a comment has none. -/
def name : Recogniser (Option Text) := do
  match (← get).rest.head? with
  | some '#' => pure none
  | some '\'' =>
    literal ['\'']
    let found ← run1 (· != '\'')
    literal ['\'']
    pure (some found.text)
  | _ =>
    let found ← run1 fun c => c != '=' && c != '#' && !Text.isBlank c
    pure (some found.text)

/-- A comment at the end of a line, if there is one. -/
def comment : Recogniser Unit :=
  firstOf [do
      skip isGap
      literal ['#']
      skip isInline, pure ()]

/-- The break at the end of a line, which may be missing at the end of the file. -/
def lineEnd : Recogniser Unit := do
  skip isGap
  firstOf [literal ['\r', '\n'], literal ['\n'], literal ['\r'], ahead Option.isNone]

/-- The parts of a binding, each moving the cursor as far as it succeeds: a binding, or what is
left of the text where it fails. -/
def binding (cursor : Cursor) : Except Cursor (Option (Text × Option Text) × Cursor) := do
  let step {α : Type} (part : Recogniser α) (cursor : Cursor) : Except Cursor (α × Cursor) :=
    match StateT.run part cursor with
    | some result => .ok result
    | none => .error cursor
  let (_, cursor) ← step (skip Text.isBlank) cursor
  if cursor.rest.isEmpty then return (none, cursor)
  let (_, cursor) ← step (firstOf [do
      literal "export".toList
      let _ ← run1 isGap, pure ()]) cursor
  let (name, cursor) ← step name cursor
  let (_, cursor) ← step (skip isGap) cursor
  let (value, cursor) ←
    if cursor.rest.head? = some '=' then do
      let (_, cursor) ← step (do
        literal ['=']
        skip isGap) cursor
      let (value, cursor) ← step value cursor
      pure (some value, cursor)
    else pure (none, cursor)
  let (_, cursor) ← step comment cursor
  let (_, cursor) ← step lineEnd cursor
  return (name.map fun name => (name, value), cursor)

/-- What follows the line that a faulty binding ends in. -/
def skipLine (cursor : Cursor) : Cursor :=
  let rest := cursor.rest.dropWhile isInline
  ⟨cursor.offset, rest.drop 1⟩

/-- The bindings of a text.  Each one takes at least one character, so the length of the text
bounds their number. -/
def bindingsFrom : (bound : Nat) → Cursor → List (Text × Option Text)
  | 0, _ => []
  | bound + 1, cursor =>
    if cursor.rest.isEmpty then []
    else match binding cursor with
      | .ok (found, after) => found.toList ++ bindingsFrom bound after
      | .error stuck => bindingsFrom bound (skipLine stuck)

/-! ## Names in values -/

/-- A name in braces behind a dollar sign, with its default. -/
def mention : Recogniser (Text × Option Text) := do
  literal ['$', '\x7b']
  let name ← run fun c => c != '\x7d' && c != ':'
  let fallback ← firstOf [do
      literal [':', '-']
      let text ← run (· != '\x7d')
      pure (some text.text), pure none]
  literal ['\x7d']
  pure (name.text, fallback)

/-- A value with the names in it replaced; `skip` counts the characters of the last name that are
still to be passed.  A name that is bound to nothing stands for nothing. -/
def expand (values : List (Text × Option Text)) (skip : Nat) : Text → Text
  | [] => []
  | c :: rest =>
    match skip with
    | skip + 1 => expand values skip rest
    | 0 =>
      match StateT.run mention ⟨0, c :: rest⟩ with
      | some ((name, fallback), after) =>
        ((List.lookup name values).getD fallback).getD [] ++ expand values (after.offset - 1) rest
      | none => c :: expand values 0 rest

/-- Bind a name: in place if it is bound already, else at the end. -/
def bind (name : Text) (value : Option Text) :
    List (Text × Option Text) → List (Text × Option Text)
  | [] => [(name, value)]
  | (other, old) :: rest =>
    if other = name then (name, value) :: rest else (other, old) :: bind name value rest

/-- The bindings with the names in their values replaced: first by earlier bindings, then by the
environment. -/
def resolve (environment earlier : List (Text × Option Text)) :
    List (Text × Option Text) → List (Text × Option Text)
  | [] => earlier
  | (name, value) :: rest =>
    let value := value.map (expand (earlier ++ environment) 0)
    resolve environment (bind name value earlier) rest

/-- What a settings file binds. -/
def read (environment : List (String × String)) (text : Text) :
    List (String × Option String) :=
  let text := Text.unifyBreaks text
  let bindings := bindingsFrom (text.length + 1) ⟨0, text⟩
  let environment := environment.map fun (name, value) => (name.toList, some value.toList)
  (resolve environment [] bindings).map fun (name, value) =>
    (String.ofList name, value.map String.ofList)

end EnvironmentFile

end HomeConfig
