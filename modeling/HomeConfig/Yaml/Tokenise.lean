import HomeConfig.Text.Utf8
import HomeConfig.Yaml.Token

/-!
# Recognising tokens

A document is read from left to right.  What a piece of text means depends on a little state: the
indentations of the open blocks, how many flow collections are open, and whether a key could start
here.

A scalar, an alias or a flow collection may turn out to be a key only when the colon behind it is
reached, so its place is remembered as a `KeyCandidate`, and the token is held back until the
question is settled.  A candidate expires at the end of its line and after 1024 characters; one
that had to be a key, because it stands where a key of the open block stands, may not expire.
-/

namespace HomeConfig

namespace Yaml

/-- A place where a key may have started. -/
structure KeyCandidate where
  /-- The number of the token, counted from the start of the document. -/
  token : Nat
  required : Bool
  mark : Mark
deriving DecidableEq, Repr

/-- The state of reading. -/
structure Tokeniser where
  rest : Text
  mark : Mark
  flowLevel : Nat
  /-- The tokens that are recognised but not delivered. -/
  queue : List Token
  /-- How many tokens have been delivered. -/
  delivered : Nat
  indent : Int
  outerIndents : List Int
  /-- Whether a key may start here. -/
  allowKey : Bool
  /-- The candidates of the open flow levels. -/
  candidates : List (Nat × KeyCandidate)
  finished : Bool
deriving Repr

/-- A step of reading. -/
abbrev Reading := StateT Tokeniser (Except Failure)

namespace Reading

/-! ## Characters -/

/-- Refuse the document at the current place. -/
def failHere {α : Type} (context : Option String) (problem : String) : Reading α := do
  throw (.syntaxError (.marked .tokens context problem (← get).mark))

/-- The next character. -/
def peek : Reading Char :=
  return (← get).rest.headD endOfText

/-- The character a given distance ahead. -/
def peekAt (distance : Nat) : Reading Char :=
  return (← get).rest.getD distance endOfText

/-- The current place. -/
def here : Reading Mark :=
  return (← get).mark

/-- The mark and the rest of a text behind some of its characters. -/
def passed : Nat → Mark → Text → Mark × Text
  | 0, mark, rest => (mark, rest)
  | _ + 1, mark, [] => (mark, [])
  | count + 1, mark, c :: rest => passed count (mark.after c (rest.headD endOfText)) rest

/-- Move over some characters. -/
def forward (count : Nat) : Reading Unit :=
  modify fun s =>
    let (mark, rest) := passed count s.mark s.rest
    { s with mark := mark, rest := rest }

/-- Move over the longest run of a class and give it back. -/
def takeRun (accepts : Char → Bool) : Reading Text := do
  let taken := (← get).rest.takeWhile accepts
  forward taken.length
  return taken

/-- Move over the longest run of a class. -/
def skipRun (accepts : Char → Bool) : Reading Unit := do
  let _ ← takeRun accepts

/-- Move over one line break.  It reads as a line feed, unless it is a line or paragraph separator,
which stands for itself; without a line break nothing is read. -/
def lineBreak : Reading Text := do
  let c ← peek
  if c = '\r' ∨ c = '\n' ∨ c = '\u0085' then
    forward (if c = '\r' ∧ (← peekAt 1) = '\n' then 2 else 1)
    return ['\n']
  else if isBreak c then
    forward 1
    return [c]
  else return []

/-- Move over the rest of a comment if there is one. -/
def skipComment : Reading Unit := do
  if (← peek) = '#' then skipRun (!isBreakOrEnd ·)

/-- A character in a message. -/
def shown (c : Char) : String :=
  String.ofList (Text.quoted [c])

/-- The number of an escape with `length` hexadecimal digits; `subject` names the escape. -/
def escapeNumber (context subject : String) (length : Nat) : Reading Nat := do
  let digits := (← get).rest.take length
  let digits := digits ++ List.replicate (length - digits.length) endOfText
  match digits.find? (!Hexadecimal.isDigit ·) with
  | some c =>
    failHere (some context)
      (s!"expected {subject} of {length} hexadecimal numbers, but found " ++ shown c)
  | none =>
    forward length
    return (Hexadecimal.number? digits).getD 0

/-! ## Candidates for keys -/

/-- Drop the candidates that have expired. -/
def expireCandidates : Reading Unit := do
  let s ← get
  let expired (key : KeyCandidate) : Bool :=
    key.mark.line != s.mark.line || key.mark.offset + 1024 < s.mark.offset
  if s.candidates.any fun (_, key) => expired key && key.required then
    failHere (some "while scanning a simple key") "could not find expected ':'"
  set { s with candidates := s.candidates.filter fun (_, key) => !expired key }

/-- Drop the candidate of the current flow level. -/
def dropCandidate : Reading Unit := do
  let s ← get
  if s.candidates.any fun (level, key) => level == s.flowLevel && key.required then
    failHere (some "while scanning a simple key") "could not find expected ':'"
  set { s with candidates := s.candidates.filter fun (level, _) => level != s.flowLevel }

/-- Remember that a key may start with the next token. -/
def saveCandidate : Reading Unit := do
  let s ← get
  if s.allowKey then
    dropCandidate
    let key : KeyCandidate := {
      token := s.delivered + s.queue.length
      required := s.flowLevel = 0 ∧ s.indent = s.mark.column
      mark := s.mark }
    modify fun s => { s with candidates := s.candidates ++ [(s.flowLevel, key)] }

/-! ## Blocks -/

/-- Put a token behind the others. -/
def emit (kind : TokenKind) (start stop : Mark) : Reading Unit :=
  modify fun s => { s with queue := s.queue ++ [⟨kind, start, stop⟩] }

/-- Put a token of the given length, read here, behind the others. -/
def emitHere (kind : TokenKind) (length : Nat) : Reading Unit := do
  let start ← here
  forward length
  emit kind start (← here)

/-- The open blocks that are indented more than a column, with what stays open. -/
def unwound (column : Int) : Int → List Int → Nat × Int × List Int
  | indent, outer :: others =>
    if column < indent then
      let (count, left) := unwound column outer others
      (count + 1, left)
    else (0, indent, outer :: others)
  | indent, [] => (0, indent, [])

/-- Close the blocks that are indented more than a column.  Inside a flow collection indentation
means nothing. -/
def closeBlocks (column : Int) : Reading Unit := do
  let s ← get
  if s.flowLevel = 0 then
    let (count, indent, outer) := unwound column s.indent s.outerIndents
    set { s with
      indent := indent
      outerIndents := outer
      queue := s.queue ++ List.replicate count (Token.mk .blockEnd s.mark s.mark) }

/-- Open a block at a column unless one is open there; says whether it did. -/
def openBlock (column : Nat) : Reading Bool := do
  let s ← get
  if s.indent < column then
    set { s with outerIndents := s.indent :: s.outerIndents, indent := (column : Int) }
    return true
  else return false

/-- Set whether a key may start here. -/
def setAllowKey (allow : Bool) : Reading Unit :=
  modify fun s => { s with allowKey := allow }

/-! ## Between tokens -/

/-- Move over blanks, comments and line breaks; behind a line break of a block a key may start. -/
def skipToToken : (bound : Nat) → Reading Unit
  | 0 => pure ()
  | bound + 1 => do
    skipRun (· == ' ')
    skipComment
    if !(← lineBreak).isEmpty then
      if (← get).flowLevel = 0 then setAllowKey true
      skipToToken bound

/-- Whether three given characters stand here, followed by a blank, a break or the end. -/
def atSeparator (c : Char) : Reading Bool :=
  return (← get).rest.take 3 == [c, c, c] && isBlankBreakOrEnd (← peekAt 3)

/-- Whether a document separator stands here. -/
def atAnySeparator : Reading Bool :=
  return (← atSeparator '-') || (← atSeparator '.')

/-! ## Directives, anchors and tags -/

/-- Move over blanks and a comment to the end of the line and behind it. -/
def finishLine (context : String) : Reading Unit := do
  skipRun (· == ' ')
  skipComment
  let c ← peek
  if !isBreakOrEnd c then
    failHere (some context) ("expected a comment or a line break, but found " ++ shown c)
  let _ ← lineBreak

/-- A run of characters of a name. -/
def name (context : String) (mayFollow : Char → Bool) : Reading String := do
  let found ← takeRun isNameChar
  let c ← peek
  if found.isEmpty || !mayFollow c then
    failHere (some context)
      ("expected alphabetic or numeric character, but found " ++ shown c)
  return String.ofList found

/-- The number of a version. -/
def versionNumber (context : String) : Reading Nat := do
  let c ← peek
  if !c.isDigit then failHere (some context) ("expected a digit, but found " ++ shown c)
  let digits ← takeRun Char.isDigit
  return digits.foldl (fun n d => 10 * n + (d.toNat - '0'.toNat)) 0

/-- Percent escapes, which must encode characters. -/
def tagEscapes (context : String) (start : Mark) : (bound : Nat) → List Nat → Reading Text
  | 0, _ => return []
  | bound + 1, bytes => do
    if (← peek) = '%' then
      forward 1
      let byte ← escapeNumber context "URI escape sequence" 2
      tagEscapes context start bound (bytes ++ [byte])
    else match Utf8.decode bytes with
      | .ok text => return text
      | .error fault =>
        throw (.syntaxError (.marked .tokens (some context) fault.message start))

/-- The pieces of a tag: characters that stand for themselves and escapes. -/
def tagPieces (context : String) : (bound : Nat) → Reading Text
  | 0 => return []
  | bound + 1 => do
    let plain ← takeRun fun c => isTagChar c && c != '%'
    if (← peek) = '%' then
      let escaped ← tagEscapes context (← here) ((← get).rest.length + 1) []
      return plain ++ escaped ++ (← tagPieces context bound)
    else return plain

/-- A tag, which may not be empty.  An escape counts even if it stands for nothing. -/
def tagText (what : String) : Reading String := do
  let c ← peek
  if !isTagChar c then
    failHere (some ("while parsing a " ++ what)) ("expected URI, but found " ++ shown c)
  return String.ofList (← tagPieces ("while scanning a " ++ what) ((← get).rest.length + 1))

/-- A tag handle: one exclamation mark, or a name between two. -/
def tagHandle (what : String) : Reading String := do
  let context := "while scanning a " ++ what
  let c ← peek
  if c ≠ '!' then failHere (some context) ("expected '!', but found " ++ shown c)
  if (← peekAt 1) = ' ' then
    forward 1
    return "!"
  else
    let inner := ((← get).rest.drop 1).takeWhile isNameChar
    let c ← peekAt (inner.length + 1)
    if c ≠ '!' then
      forward (inner.length + 1)
      failHere (some context) ("expected '!', but found " ++ shown c)
    forward (inner.length + 2)
    return String.ofList ('!' :: inner ++ ['!'])

/-- A directive with its line. -/
def directive : Reading Unit := do
  let context := "while scanning a directive"
  let expectSpace : Reading Unit := do
    let c ← peek
    if !isSpaceBreakOrEnd c then
      failHere (some context) ("expected ' ', but found " ++ shown c)
  let start ← here
  forward 1
  let kind ← name context isSpaceBreakOrEnd
  let (token, stop) ← (do
    if kind = "YAML" then
      skipRun (· == ' ')
      let major ← versionNumber context
      let c ← peek
      if c ≠ '.' then failHere (some context) ("expected a digit or '.', but found " ++ shown c)
      forward 1
      let minor ← versionNumber context
      let c ← peek
      if !isSpaceBreakOrEnd c then
        failHere (some context) ("expected a digit or ' ', but found " ++ shown c)
      pure (TokenKind.versionDirective major minor, ← here)
    else if kind = "TAG" then
      skipRun (· == ' ')
      let handle ← tagHandle "directive"
      let c ← peek
      if c ≠ ' ' then failHere (some context) ("expected ' ', but found " ++ shown c)
      skipRun (· == ' ')
      let tagPrefix ← tagText "directive"
      expectSpace
      pure (TokenKind.tagDirective handle tagPrefix, ← here)
    else
      let stop ← here
      skipRun (!isBreakOrEnd ·)
      pure (TokenKind.otherDirective, stop))
  finishLine context
  emit token start stop

/-- An anchor or an alias. -/
def anchorOrAlias : Reading Unit := do
  let start ← here
  let isAlias := (← peek) == '*'
  forward 1
  let found ← name (if isAlias then "while scanning an alias" else "while scanning an anchor")
    fun c => isBlankBreakOrEnd c || "?:,]\x7d%@\x60".toList.contains c
  emit (if isAlias then .alias found else .anchor found) start (← here)

/-- A tag on a node: verbatim in angle brackets, a lone exclamation mark, or a handle and a
suffix. -/
def tag : Reading Unit := do
  let start ← here
  let second ← peekAt 1
  let (handle, suffix) ← (do
    if second = '<' then
      forward 2
      let suffix ← tagText "tag"
      let c ← peek
      if c ≠ '>' then
        failHere (some "while parsing a tag") ("expected '>', but found " ++ shown c)
      forward 1
      pure (none, suffix)
    else if isBlankBreakOrEnd second then
      forward 1
      pure (none, "!")
    else
      let word := ((← get).rest.drop 1).takeWhile (!isSpaceBreakOrEnd ·)
      let handle ← if word.contains '!' then tagHandle "tag" else do
        forward 1
        pure "!"
      pure (some handle, ← tagText "tag"))
  let c ← peek
  if !isSpaceBreakOrEnd c then
    failHere (some "while scanning a tag") ("expected ' ', but found " ++ shown c)
  emit (.tag handle suffix) start (← here)

/-! ## Block scalars -/

/-- What becomes of the line breaks at the end of a block scalar. -/
inductive Chomping
  | clip
  | strip
  | keep
deriving DecidableEq, Repr

/-- A sign for the end of a block scalar. -/
def chomping : Reading (Option Chomping) := do
  let c ← peek
  if c = '+' then
    forward 1
    return some .keep
  else if c = '-' then
    forward 1
    return some .strip
  else return none

/-- A digit for the indentation of a block scalar. -/
def indentation (context : String) : Reading (Option Nat) := do
  let c ← peek
  if c.isDigit then
    if c = '0' then
      failHere (some context)
        "expected indentation indicator in the range 1-9, but found 0"
    forward 1
    return some (c.toNat - '0'.toNat)
  else return none

/-- The indicators behind the sign of a block scalar, in either order. -/
def blockIndicators (context : String) : Reading (Chomping × Option Nat) := do
  let first ← chomping
  let increment ← indentation context
  let last ← if first.isNone && increment.isSome then chomping else pure none
  let c ← peek
  if !isSpaceBreakOrEnd c then
    failHere (some context)
      ("expected chomping or indentation indicators, but found " ++ shown c)
  return ((first <|> last).getD .clip, increment)

/-- The line breaks in front of a block scalar, and how far the spaces between them reach. -/
def leadingBreaks : (bound : Nat) → (breaks : Text) → (widest : Nat) → (stop : Mark) →
    Reading (Text × Nat × Mark)
  | 0, breaks, widest, stop => return (breaks, widest, stop)
  | bound + 1, breaks, widest, stop => do
    let c ← peek
    if c = ' ' then
      forward 1
      leadingBreaks bound breaks (max widest (← here).column) stop
    else if isBreak c then
      let found ← lineBreak
      leadingBreaks bound (breaks ++ found) widest (← here)
    else return (breaks, widest, stop)

/-- Move over spaces up to a column. -/
def skipIndent (column : Nat) : Reading Unit := do
  let s ← get
  forward (min ((s.rest.takeWhile (· == ' ')).length) (column - s.mark.column))

/-- The line breaks between two lines of a block scalar, with the indentation behind them. -/
def blockBreaks (column : Nat) : (bound : Nat) → (breaks : Text) → (stop : Mark) →
    Reading (Text × Mark)
  | 0, breaks, stop => return (breaks, stop)
  | bound + 1, breaks, stop => do
    skipIndent column
    if isBreak (← peek) then
      let found ← lineBreak
      blockBreaks column bound (breaks ++ found) (← here)
    else return (breaks, stop)

/-- Whether a line of a block scalar of the given indentation starts here. -/
def atBlockLine (column : Nat) : Reading Bool :=
  return (← here).column == column && (← peek) != endOfText

/-- What the lines of a block scalar leave: the text, the line break behind the last line, the
further breaks, and where it ends. -/
structure BlockLines where
  text : Text
  lineEnd : Text
  breaks : Text
  stop : Mark

/-- The lines of a block scalar from one of them on. -/
def blockLines (folded : Bool) (column : Nat) : (bound : Nat) → BlockLines → Reading BlockLines
  | 0, lines => return lines
  | bound + 1, lines => do
    if !(← atBlockLine column) then return lines
    let text := lines.text ++ lines.breaks
    let isText (c : Char) : Bool := c != ' ' && c != '\t'
    let startsWithText := isText (← peek)
    let line ← takeRun (!isBreakOrEnd ·)
    let text := text ++ line
    let lineEnd ← lineBreak
    let (breaks, stop) ← blockBreaks column ((← get).rest.length + 1) [] (← here)
    if ← atBlockLine column then
      let joint :=
        if folded && lineEnd == ['\n'] && startsWithText && isText (← peek) then
          if breaks.isEmpty then [' '] else []
        else lineEnd
      blockLines folded column bound ⟨text ++ joint, lineEnd, breaks, stop⟩
    else return ⟨text, lineEnd, breaks, stop⟩

/-- A literal or folded block scalar. -/
def blockScalar (folded : Bool) : Reading Unit := do
  let context := "while scanning a block scalar"
  let start ← here
  forward 1
  let (chomp, increment) ← blockIndicators context
  finishLine context
  let s ← get
  let bound := s.rest.length + 1
  let least := max 1 (s.indent + 1).toNat
  let (column, breaks, stop) ← (do
    match increment with
    | none =>
      let (breaks, widest, stop) ← leadingBreaks bound [] 0 s.mark
      pure (max least widest, breaks, stop)
    | some increment =>
      let column := least + increment - 1
      let (breaks, stop) ← blockBreaks column bound [] s.mark
      pure (column, breaks, stop))
  let lines ← blockLines folded column bound ⟨[], [], breaks, stop⟩
  let text := match chomp with
    | .strip => lines.text
    | .clip => lines.text ++ lines.lineEnd
    | .keep => lines.text ++ lines.lineEnd ++ lines.breaks
  emit (.scalar text .block) start lines.stop

/-! ## Quoted scalars -/

/-- What a one-letter escape stands for. -/
def escapes : List (Char × Char) :=
  [('0', '\x00'), ('a', '\x07'), ('b', '\x08'), ('t', '\t'), ('\t', '\t'), ('n', '\n'),
    ('v', '\x0b'), ('f', '\x0c'), ('r', '\r'), ('e', '\x1b'), (' ', ' '), ('"', '"'),
    ('\\', '\\'), ('/', '/'), ('N', '\u0085'), ('_', '\u00a0'), ('L', '\u2028'),
    ('P', '\u2029')]

/-- How many digits a numeric escape has. -/
def escapeLength? : Char → Option Nat
  | 'x' => some 2
  | 'u' => some 4
  | 'U' => some 8
  | _ => none

/-- The line breaks inside a quoted scalar, with the blanks around them. -/
def quotedBreaks : (bound : Nat) → Reading Text
  | 0 => return []
  | bound + 1 => do
    if ← atAnySeparator then
      failHere (some "while scanning a quoted scalar") "found unexpected document separator"
    skipRun fun c => c == ' ' || c == '\t'
    if isBreak (← peek) then
      let found ← lineBreak
      return found ++ (← quotedBreaks bound)
    else return []

/-- An escape inside double quotes, from behind the backslash. -/
def escape : Reading Text := do
  let context := "while scanning a double-quoted scalar"
  let c ← peek
  match escapes.lookup c, escapeLength? c with
  | some decoded, _ =>
    forward 1
    return [decoded]
  | none, some length =>
    forward 1
    let code ← escapeNumber context "escape sequence" length
    if 0x10ffff < code then throw (.content .noSuchValue)
    return [if 0xd800 ≤ code ∧ code < 0xe000 then '\ufffd' else Char.ofNat code]
  | none, none =>
    if isBreak c then
      let _ ← lineBreak
      quotedBreaks ((← get).rest.length + 1)
    else failHere (some context) ("found unknown escape character " ++ shown c)

/-- The part of a quoted scalar up to the next blank, line break or closing quote. -/
def quotedWord (double : Bool) : (bound : Nat) → Reading Text
  | 0 => return []
  | bound + 1 => do
    let plain ← takeRun fun c =>
      !(c == '\'' || c == '"' || c == '\\' || isBlankBreakOrEnd c)
    let c ← peek
    if !double && c == '\'' && (← peekAt 1) == '\'' then
      forward 2
      return plain ++ '\'' :: (← quotedWord double bound)
    else if (double && c == '\'') || (!double && (c == '"' || c == '\\')) then
      forward 1
      return plain ++ c :: (← quotedWord double bound)
    else if double && c == '\\' then
      forward 1
      let decoded ← escape
      return plain ++ decoded ++ (← quotedWord double bound)
    else return plain

/-- The blanks and line breaks between two words of a quoted scalar. -/
def quotedSpace : Reading Text := do
  let blanks ← takeRun fun c => c == ' ' || c == '\t'
  let c ← peek
  if c = endOfText then
    failHere (some "while scanning a quoted scalar") "found unexpected end of stream"
  else if isBreak c then
    let lineEnd ← lineBreak
    let breaks ← quotedBreaks ((← get).rest.length + 1)
    return (if lineEnd ≠ ['\n'] then lineEnd else if breaks.isEmpty then [' '] else []) ++ breaks
  else return blanks

/-- The text of a quoted scalar up to its closing quote. -/
def quotedText (quote : Char) : (bound : Nat) → Reading Text
  | 0 => return []
  | bound + 1 => do
    let word ← quotedWord (quote == '"') ((← get).rest.length + 1)
    if (← peek) = quote then return word
    let space ← quotedSpace
    return word ++ space ++ (← quotedText quote bound)

/-- A scalar in single or double quotes. -/
def quotedScalar : Reading Unit := do
  let start ← here
  let quote ← peek
  forward 1
  let text ← quotedText quote ((← get).rest.length + 1)
  forward 1
  emit (.scalar text .quoted) start (← here)

/-! ## Plain scalars -/

/-- How many characters of a plain scalar follow without a blank.  A colon ends it in front of a
blank, and inside a flow collection in front of the collection's own signs too. -/
def plainLength (inFlow : Bool) : Text → Nat
  | [] => 0
  | c :: rest =>
    let next := rest.headD endOfText
    if isBlankBreakOrEnd c
        || (c == ':' && (isBlankBreakOrEnd next || (inFlow && ",[]\x7b\x7d".toList.contains next)))
        || (inFlow && ",?[]\x7b\x7d".toList.contains c) then 0
    else plainLength inFlow rest + 1

/-- The line breaks behind a line of a plain scalar, with the spaces around them; `none` in front
of a document separator. -/
def plainBreaks : (bound : Nat) → Reading (Option Text)
  | 0 => return some []
  | bound + 1 => do
    let c ← peek
    if c = ' ' then
      forward 1
      plainBreaks bound
    else if isBreak c then
      let found ← lineBreak
      if ← atAnySeparator then return none
      return (← plainBreaks bound).map (found ++ ·)
    else return some []

/-- What stands between two words of a plain scalar; nothing if the scalar must end. -/
def plainSpace : Reading Text := do
  let blanks ← takeRun (· == ' ')
  if isBreak (← peek) then
    let lineEnd ← lineBreak
    setAllowKey true
    if ← atAnySeparator then return []
    match ← plainBreaks ((← get).rest.length + 1) with
    | none => return []
    | some breaks =>
      return (if lineEnd ≠ ['\n'] then lineEnd else if breaks.isEmpty then [' '] else []) ++ breaks
  else return blanks

/-- The words of a plain scalar, from behind the given text on, and where the last one ends. -/
def plainWords (indent : Int) (space : Text) : (bound : Nat) → (stop : Mark) →
    Reading (Text × Mark)
  | 0, stop => return ([], stop)
  | bound + 1, stop => do
    if (← peek) = '#' then return ([], stop)
    let s ← get
    let length := plainLength (s.flowLevel != 0) s.rest
    if length = 0 then return ([], stop)
    setAllowKey false
    let word := s.rest.take length
    forward length
    let stop ← here
    let next ← plainSpace
    let s ← get
    if next.isEmpty || s.rest.head? == some '#'
        || (s.flowLevel == 0 && (s.mark.column : Int) < indent) then
      return (space ++ word, stop)
    let (others, stop) ← plainWords indent next bound stop
    return (space ++ word ++ others, stop)

/-- A scalar without quotes. -/
def plainScalar : Reading Unit := do
  let s ← get
  let (text, stop) ← plainWords (s.indent + 1) [] (s.rest.length + 1) s.mark
  emit (.scalar text .plain) s.mark stop

/-! ## Tokens -/

/-- The end of the document stream. -/
def endStream : Reading Unit := do
  closeBlocks (-1)
  dropCandidate
  modify fun s => { s with allowKey := false, candidates := [], finished := true }
  emitHere .streamEnd 0

/-- A line that separates documents. -/
def separator (kind : TokenKind) : Reading Unit := do
  closeBlocks (-1)
  dropCandidate
  setAllowKey false
  emitHere kind 3

/-- The sign that opens a flow collection. -/
def openFlow (kind : TokenKind) : Reading Unit := do
  saveCandidate
  modify fun s => { s with flowLevel := s.flowLevel + 1, allowKey := true }
  emitHere kind 1

/-- The sign that closes a flow collection. -/
def closeFlow (kind : TokenKind) : Reading Unit := do
  dropCandidate
  modify fun s => { s with flowLevel := s.flowLevel - 1, allowKey := false }
  emitHere kind 1

/-- Open a block collection for an indicator at the current column, where a key could start. -/
def openBlockHere (kind : TokenKind) (problem : String) : Reading Unit := do
  let s ← get
  if s.flowLevel = 0 then
    if !s.allowKey then failHere none problem
    if ← openBlock s.mark.column then emitHere kind 0

/-- The dash of a sequence entry. -/
def blockEntry : Reading Unit := do
  openBlockHere .blockSequenceStart "sequence entries are not allowed here"
  setAllowKey true
  dropCandidate
  emitHere .blockEntry 1

/-- The question mark of an explicit key. -/
def explicitKey : Reading Unit := do
  openBlockHere .blockMappingStart "mapping keys are not allowed here"
  setAllowKey ((← get).flowLevel == 0)
  dropCandidate
  emitHere .key 1

/-- The colon in front of a value.  If a key may have started on this level, it did: its token is
put where it started, and in front of it the start of a block mapping if this key opens one. -/
def valueSign : Reading Unit := do
  let s ← get
  match s.candidates.lookup s.flowLevel with
  | some key =>
    let place := key.token - s.delivered
    let opens ← if s.flowLevel = 0 then openBlock key.mark.column else pure false
    let tokens := (if opens then [Token.mk .blockMappingStart key.mark key.mark] else []) ++
      [Token.mk .key key.mark key.mark]
    modify fun s => { s with
      candidates := s.candidates.filter fun (level, _) => level != s.flowLevel
      queue := s.queue.take place ++ tokens ++ s.queue.drop place
      allowKey := false }
  | none =>
    openBlockHere .blockMappingStart "mapping values are not allowed here"
    setAllowKey ((← get).flowLevel == 0)
    dropCandidate
  emitHere .value 1

/-- A token that may be a key and behind which none may start. -/
def possibleKey (token : Reading Unit) : Reading Unit := do
  saveCandidate
  setAllowKey false
  token

/-- Recognise what stands behind the blanks and comments at the current place. -/
def nextTokens : Reading Unit := do
  let s ← get
  if s.mark.offset = 0 && s.rest.head? == some '\ufeff' then forward 1
  skipToToken (s.rest.length + 1)
  expireCandidates
  let s ← get
  closeBlocks s.mark.column
  let c ← peek
  let next ← peekAt 1
  let inFlow := s.flowLevel != 0
  let atLineStart := s.mark.column == 0
  if c = endOfText then endStream
  else if c = '%' && atLineStart then do
    closeBlocks (-1)
    dropCandidate
    setAllowKey false
    directive
  else if c = '-' && atLineStart && (← atSeparator '-') then separator .documentStart
  else if c = '.' && atLineStart && (← atSeparator '.') then separator .documentEnd
  else if c = '[' then openFlow .flowSequenceStart
  else if c = '\x7b' then openFlow .flowMappingStart
  else if c = ']' then closeFlow .flowSequenceEnd
  else if c = '\x7d' then closeFlow .flowMappingEnd
  else if c = ',' then do
    setAllowKey true
    dropCandidate
    emitHere .flowEntry 1
  else if c = '-' && isBlankBreakOrEnd next then blockEntry
  else if c = '?' && (inFlow || isBlankBreakOrEnd next) then explicitKey
  else if c = ':' && (inFlow || isBlankBreakOrEnd next) then valueSign
  else if c = '*' || c = '&' then possibleKey anchorOrAlias
  else if c = '!' then possibleKey tag
  else if (c = '|' || c = '>') && !inFlow then do
    setAllowKey true
    dropCandidate
    blockScalar (c == '>')
  else if c = '\'' || c = '"' then possibleKey quotedScalar
  else if !(isBlankBreakOrEnd c || "-?:,[]\x7b\x7d#&*!|>'\"%@\x60".toList.contains c)
      || (!isBlankBreakOrEnd next && (c = '-' || (!inFlow && (c = '?' || c = ':')))) then
    possibleKey plainScalar
  else
    failHere (some "while scanning for the next token")
      ("found character " ++ shown c ++ " that cannot start any token")

/-- Whether more has to be recognised before the first token can be delivered: it may still turn
out to be a key. -/
def needsMore : Reading Bool := do
  if (← get).finished then return false
  if (← get).queue.isEmpty then return true
  expireCandidates
  let s ← get
  return s.candidates.any fun (_, key) => key.token == s.delivered

/-- Recognise as much as the first token needs. -/
def prepare : (bound : Nat) → Reading Unit
  | 0 => pure ()
  | bound + 1 => do
    if ← needsMore then
      nextTokens
      prepare bound

/-- Deliver the first token; `none` behind the last. -/
def deliver (bound : Nat) : Reading (Option Token) := do
  prepare bound
  let s ← get
  match s.queue with
  | [] => return none
  | token :: others =>
    set { s with queue := others, delivered := s.delivered + 1 }
    return some token

end Reading

namespace TokenStream

/-- Deliver tokens until there are none left or the document is refused. -/
def collect (limit : Nat) : (bound : Nat) → Tokeniser → TokenStream
  | 0, _ => ⟨[], none⟩
  | bound + 1, state =>
    match (Reading.deliver limit).run state with
    | .error failure => ⟨[], some failure⟩
    | .ok (none, _) => ⟨[], none⟩
    | .ok (some token, state) =>
      let others := collect limit bound state
      ⟨token :: others.tokens, others.failure⟩

/-- The state at the start of a text. -/
def initial (text : Text) : Tokeniser where
  rest := text
  mark := Mark.start
  flowLevel := 0
  queue := [⟨.streamStart, Mark.start, Mark.start⟩]
  delivered := 0
  indent := -1
  outerIndents := []
  allowKey := true
  candidates := []
  finished := false

/-- The tokens of a text.  Every round of recognition reads at least one character, and every
character opens or closes at most a few tokens; the bounds follow. -/
def ofText (text : Text) : TokenStream :=
  collect (text.length + 2) (4 * text.length + 8) (initial text)

end TokenStream

end Yaml

end HomeConfig
