import HomeConfig.Number.Numeral
import HomeConfig.Text.Class.Identifier
import HomeConfig.Text.Quoted

/-!
# Tokens of templates

A template is text with expressions, statements and comments in it, each between its own pair of
signs.  Inside an expression or a statement the text is cut into names, numbers, strings and
operators; brackets must balance there, and only between balanced brackets may the part end.
Blanks, comments and the signs of raw parts leave no token.

When the text cannot be cut further, the tokens before that place are still delivered; the failure
stands behind them.
-/

namespace HomeConfig

namespace Template

/-- Why a template is refused. -/
inductive Failure
  /-- It is not well formed. -/
  | syntaxError (message : String)
  /-- It writes a number that is too long to be read. -/
  | numberTooLong
  /-- It writes a number with digits that no number may have. -/
  | strangeNumber
deriving DecidableEq, Repr

/-- A token. -/
inductive Token
  | data (text : Text)
  | variableBegin
  | variableEnd
  | blockBegin
  | blockEnd
  | name (text : String)
  | string (text : String)
  | integer
  | float
  | operator (sign : String)
  /-- The end of the template. -/
  | finish
deriving DecidableEq, Repr

/-- How a message describes a token. -/
def Token.label : Token → String
  | .data _ => "template data / text"
  | .variableBegin => "begin of print statement"
  | .variableEnd => "end of print statement"
  | .blockBegin => "begin of statement block"
  | .blockEnd => "end of statement block"
  | .name text => text
  | .string _ => "string"
  | .integer => "integer"
  | .float => "float"
  | .operator sign => sign
  | .finish => "end of template"

/-- The tokens of a template, and the failure that stands behind them. -/
structure TokenStream where
  tokens : List Token
  failure : Option Failure
deriving DecidableEq, Repr

/-! ## Line ends -/

/-- A template with unified line ends and without the last one. -/
def normalise (text : Text) : Text :=
  let unified := Text.unifyBreaks text
  if unified.getLast? = some '\n' then unified.dropLast else unified

/-! ## Strings -/

/-- A character beyond the basic ones, written as an escape. -/
def escaped (c : Char) : Text :=
  if c.toNat < 0x80 then [c] else Hexadecimal.escape c

/-- The letter of a numeric escape with its number of digits. -/
def numericEscape? (c : Char) : Option Nat :=
  if c = 'x' then some 2 else if c = 'u' then some 4 else if c = 'U' then some 8 else none

/-- The problem of a numeric escape with too few digits. -/
def truncated (letter : Char) (length : Nat) : String :=
  "truncated \\" ++ String.ofList (letter :: List.replicate length 'X') ++ " escape"

/-- What a one-letter escape stands for. -/
def plainEscape? (c : Char) : Option Char :=
  [('\\', '\\'), ('\'', '\''), ('"', '"'), ('b', '\x08'), ('f', '\x0c'), ('t', '\t'), ('n', '\n'),
    ('r', '\r'), ('v', '\x0b'), ('a', '\x07')].lookup c

/-- Decode a string in which every character is a basic one; `skip` counts characters of an escape
already read. -/
def unescapeFrom (skip : Nat) : Text → Except String Text
  | [] => .ok []
  | c :: rest =>
    match skip with
    | skip + 1 => unescapeFrom skip rest
    | 0 =>
      if c ≠ '\\' then (unescapeFrom 0 rest).map (c :: ·)
      else match rest with
        | [] => .error "\\ at end of string"
        | letter :: behind =>
          if letter = '\n' then unescapeFrom 1 rest
          else if let some decoded := plainEscape? letter then
            (unescapeFrom 1 rest).map (decoded :: ·)
          else if let some length := numericEscape? letter then
            let digits := (behind.take length).filterMap Hexadecimal.value?
            if digits.length < length then .error (truncated letter length)
            else
              let code := digits.foldl (16 * · + ·) 0
              if 0x10ffff < code then .error "illegal Unicode character"
              else (unescapeFrom (length + 1) rest).map (Char.ofNat code :: ·)
          else if letter = 'N' then
            match behind with
            | '\x7b' :: name =>
              if name.contains '\x7d' && name.head? != some '\x7d' then
                .error "unknown Unicode character name"
              else .error "malformed \\N character escape"
            | _ => .error "malformed \\N character escape"
          else if '0' ≤ letter ∧ letter ≤ '7' then
            let digits := (rest.take 3).takeWhile fun d => '0' ≤ d && d ≤ '7'
            let code := digits.foldl (fun n d => 8 * n + (d.toNat - '0'.toNat)) 0
            (unescapeFrom digits.length rest).map (Char.ofNat code :: ·)
          else (unescapeFrom 0 rest).map ('\\' :: ·)

/-- The text of a string between its quotes. -/
def unescape (text : Text) : Except String Text :=
  unescapeFrom 0 (text.flatMap escaped)

/-- The length of a string with its quotes, given what follows the opening one; `none` if it is
not closed. -/
def stringLength? (quote : Char) : (skip : Bool) → Text → Option Nat
  | _, [] => none
  | true, _ :: rest => (stringLength? quote false rest).map (· + 1)
  | false, c :: rest =>
    if c = quote then some 2
    else (stringLength? quote (c == '\\') rest).map (· + 1)

/-! ## Numbers -/

/-- The length of digits between which single underscores may stand. -/
def spacedLength (isDigit : Char → Bool) : (underscore : Bool) → Text → Nat
  | _, [] => 0
  | underscore, c :: rest =>
    if isDigit c then spacedLength isDigit true rest + 1
    else if c = '_' ∧ underscore ∧ rest.head?.any isDigit then
      spacedLength isDigit false rest + 1
    else 0

/-- The length of digits of any script with single underscores between them. -/
def digitsLength (text : Text) : Nat :=
  spacedLength Text.isDecimalDigit false text

/-- The length of a sign, if there is one. -/
def signLength (text : Text) : Nat :=
  match text with
  | d :: _ => if d = '+' ∨ d = '-' then 1 else 0
  | [] => 0

/-- The length of an exponent; zero if there is none. -/
def exponentLength (text : Text) : Nat :=
  match text with
  | c :: rest =>
    if c = 'e' ∨ c = 'E' then
      let sign := signLength rest
      let digits := digitsLength (rest.drop sign)
      if digits = 0 then 0 else 1 + sign + digits
    else 0
  | [] => 0

/-- The length of a fraction with its point; zero if there is none. -/
def fractionLength (text : Text) : Nat :=
  match text with
  | '.' :: rest => let digits := digitsLength rest; if digits = 0 then 0 else digits + 1
  | _ => 0

/-- The length of a floating-point number: digits with a fraction, an exponent, or both. -/
def floatLength (text : Text) : Nat :=
  let whole := digitsLength text
  if whole = 0 then 0
  else
    let behind := text.drop whole
    let fraction := fractionLength behind
    let exponent := exponentLength (behind.drop fraction)
    if fraction + exponent = 0 then 0 else whole + fraction + exponent

/-- The length of digits to a base behind a zero and the letter of the base. -/
def basedLength (letter : Char) (isDigit : Char → Bool) (text : Text) : Nat :=
  match text with
  | '0' :: c :: rest =>
    if c.toLower = letter then
      let digits := spacedLength isDigit true rest
      if digits = 0 then 0 else digits + 2
    else 0
  | _ => 0

/-- The lengths of integers to the bases other than ten. -/
def basedLengths (text : Text) : List Nat :=
  [basedLength 'b' (fun c => c == '0' || c == '1') text,
    basedLength 'o' (fun c => '0' ≤ c && c ≤ '7') text,
    basedLength 'x' (fun c => Text.isDecimalDigit c || ('a' ≤ c.toLower && c.toLower ≤ 'f')) text]

/-- The length of a decimal integer. -/
def decimalLength (text : Text) : Nat :=
  match text with
  | '0' :: rest => spacedLength (· == '0') true rest + 1
  | c :: rest => if c.isDigit then spacedLength Text.isDecimalDigit true rest + 1 else 0
  | [] => 0

/-- The length of an integer, and whether it is a decimal one. -/
def integerLength (text : Text) : Nat × Bool :=
  match (basedLengths text).find? (0 < ·) with
  | some length => (length, false)
  | none => (decimalLength text, true)

/-! ## Cutting -/

/-- What part of a template is being cut. -/
inductive Mode
  | text
  | comment
  | raw
  | block
  | variable
deriving DecidableEq, Repr

/-- The state of cutting. -/
structure Cutter where
  mode : Mode
  /-- The brackets that must still be closed, innermost first. -/
  unclosed : List Char
  before : Option Char
  offset : Nat
  rest : Text
deriving Repr

namespace Cutter

/-- Move over some characters. -/
def advance (cutter : Cutter) (length : Nat) : Cutter :=
  { cutter with
    before := if length = 0 then cutter.before else cutter.rest[length - 1]?
    offset := cutter.offset + length
    rest := cutter.rest.drop length }

/-- How many blanks a text starts with. -/
def blanks (text : Text) : Nat :=
  (text.takeWhile Text.isBlank).length

/-- The length of the sign that ends a statement, with the blanks it removes; zero if there is
none. -/
def blockEndLength (text : Text) : Nat :=
  match text with
  | '+' :: '%' :: '\x7d' :: _ => 3
  | '-' :: '%' :: '\x7d' :: rest => 3 + blanks rest
  | '%' :: '\x7d' :: _ => 2
  | _ => 0

/-- The length of the sign that ends an expression, with the blanks it removes; zero if there is
none. -/
def variableEndLength (text : Text) : Nat :=
  match text with
  | '-' :: '\x7d' :: '\x7d' :: rest => 3 + blanks rest
  | '\x7d' :: '\x7d' :: _ => 2
  | _ => 0

/-- The length of a statement that consists of one word, with both of its signs; `plusEnds` says
whether a plus may stand in the last one.  Also whether the first sign removes the blanks before
it. -/
def wordBlock? (word : String) (plusEnds : Bool) (text : Text) : Option (Nat × Bool) := do
  let behind ← Text.stripPrefix? ['\x7b', '%'] text
  let sign := match behind with
    | c :: _ => if c = '-' ∨ c = '+' then 1 else 0
    | [] => 0
  let inner := behind.drop sign
  let lead := blanks inner
  let rest ← Text.stripPrefix? word.toList (inner.drop lead)
  let trail := blanks rest
  let ending := blockEndLength (rest.drop trail)
  if ending = 0 ∨ (!plusEnds ∧ (rest.drop trail).head? = some '+') then none
  else pure (2 + sign + lead + word.length + trail + ending, behind.head? == some '-')

/-- A sign that opens a part of a template: the part, the length of the sign, and whether it
removes the blanks before it. -/
def opening? (text : Text) : Option (Mode × Nat × Bool) :=
  match wordBlock? "raw" false text with
  | some (length, strips) => some (.raw, length, strips)
  | none =>
    let withSign (mode : Mode) (rest : Text) : Option (Mode × Nat × Bool) :=
      match rest with
      | '-' :: _ => some (mode, 3, true)
      | '+' :: _ => some (mode, 3, false)
      | _ => some (mode, 2, false)
    match text with
    | '\x7b' :: '\x7b' :: rest => withSign .variable rest
    | '\x7b' :: '#' :: rest => withSign .comment rest
    | '\x7b' :: '%' :: rest => withSign .block rest
    | _ => none

/-- The first place of a text where a search succeeds. -/
def findFirst {α : Type} (search : Text → Option α) : Text → Option (Nat × α)
  | [] => none
  | c :: rest =>
    match search (c :: rest) with
    | some found => some (0, found)
    | none => (findFirst search rest).map fun (offset, found) => (offset + 1, found)

/-- Leave out the blanks at the end of a text. -/
def trimEnd (text : Text) : Text :=
  (text.reverse.dropWhile Text.isBlank).reverse

/-- Text as tokens; an empty one leaves none. -/
def dataTokens (text : Text) (strips : Bool) : List Token :=
  let kept := if strips then trimEnd text else text
  if kept.isEmpty then [] else [.data kept]

/-- The closing bracket for an opening one. -/
def closer? (c : Char) : Option Char :=
  [('\x7b', '\x7d'), ('(', ')'), ('[', ']')].lookup c

/-- The operator at the start of a text. -/
def operator? (text : Text) : Option String :=
  let long := ["//", "**", "==", "!=", ">=", "<="]
  let short := ["+", "-", "/", "*", "%", "~", "[", "]", "(", ")", "\x7b", "\x7d", ">", "<", "=",
    ".", ":", "|", ",", ";"]
  (long ++ short).find? fun sign => Text.startsWith sign.toList text

/-- Refuse the template. -/
def refuse {α : Type} (message : String) : Except Failure α :=
  .error (.syntaxError message)

/-- Whether a character continues a name. -/
def isNamePart (c : Char) : Bool :=
  Text.isWord c || Text.continuesIdentifier c

/-- The length of a string with its quotes, if a text starts with one that is closed. -/
def stringHere? (text : Text) : Option Nat :=
  match text with
  | c :: rest => if c = '\'' ∨ c = '"' then stringLength? c false rest else none
  | [] => none

/-- What a text starts with, unless that is an operator: the tokens, none for blanks, and their
length.  Behind a point no floating-point number starts. -/
def lexeme (before : Option Char) (text : Text) : Except Failure (Option (List Token × Nat)) :=
  let space := blanks text
  let float := if before = some '.' then 0 else floatLength text
  let (integer, isDecimal) := integerLength text
  let name := text.takeWhile isNamePart
  if 0 < space then .ok (some ([], space))
  else if 0 < float then
    if (text.take float).all (·.toNat < 0x80) then .ok (some ([.float], float))
    else .error .strangeNumber
  else if 0 < integer then
    if isDecimal ∧ Numeral.decimalLimit < ((text.take integer).filter (· != '_')).length then
      .error .numberTooLong
    else .ok (some ([.integer], integer))
  else if !name.isEmpty then
    if Text.isIdentifier name then .ok (some ([.name (String.ofList name)], name.length))
    else refuse "Invalid character in identifier"
  else
    match stringHere? text with
    | some length =>
      match unescape ((text.take (length - 1)).tail) with
      | .ok content => .ok (some ([.string (String.ofList content)], length))
      | .error message => refuse message
    | none => .ok none

/-- The brackets that must be closed behind an operator that starts with the given character. -/
def unclosedBehind (unclosed : List Char) (c : Char) (sign : String) :
    Except Failure (List Char) :=
  if let some closer := closer? c then .ok (closer :: unclosed)
  else if c = '\x7d' ∨ c = ')' ∨ c = ']' then
    match unclosed with
    | [] => refuse ("unexpected '" ++ sign ++ "'")
    | expected :: outer =>
      if expected = c then .ok outer
      else refuse ("unexpected '" ++ sign ++ "', expected '" ++ String.ofList [expected] ++ "'")
  else .ok unclosed

/-- A token inside an expression or a statement, and the state behind it. -/
def inside (cutter : Cutter) (c : Char) : Except Failure (List Token × Cutter) := do
  if let some (tokens, length) ← lexeme cutter.before cutter.rest then
    return (tokens, cutter.advance length)
  match operator? cutter.rest with
  | none =>
    refuse ("unexpected char " ++ String.ofList (Text.quoted [c]) ++ s!" at {cutter.offset}")
  | some sign =>
    let unclosed ← unclosedBehind cutter.unclosed c sign
    return ([.operator sign], { cutter.advance sign.length with unclosed := unclosed })

/-- The next tokens and the state behind them; `none` at the end of the text. -/
def step (cutter : Cutter) : Except Failure (Option (List Token × Cutter)) := do
  match cutter.rest with
  | [] => return none
  | c :: _ =>
    match cutter.mode with
    | .text =>
      match findFirst opening? cutter.rest with
      | none =>
        return some ([.data cutter.rest], cutter.advance cutter.rest.length)
      | some (offset, mode, length, strips) =>
        let sign := match mode with
          | .variable => [Token.variableBegin]
          | .block => [Token.blockBegin]
          | _ => []
        return some (dataTokens (cutter.rest.take offset) strips ++ sign,
          { cutter.advance (offset + length) with mode := mode })
    | .comment =>
      match Text.firstIndex? ['#', '\x7d'] cutter.rest with
      | none => refuse "Missing end of comment tag"
      | some offset =>
        let strips := offset ≠ 0 ∧ cutter.rest[offset - 1]? = some '-'
        let length := if strips then blanks (cutter.rest.drop (offset + 2)) else 0
        return some ([], { cutter.advance (offset + 2 + length) with mode := .text })
    | .raw =>
      match findFirst (wordBlock? "endraw" true) cutter.rest with
      | none => refuse "Missing end of raw directive"
      | some (offset, length, strips) =>
        return some (dataTokens (cutter.rest.take offset) strips,
          { cutter.advance (offset + length) with mode := .text })
    | .block =>
      let length := blockEndLength cutter.rest
      if cutter.unclosed.isEmpty ∧ 0 < length then
        return some ([.blockEnd], { cutter.advance length with mode := .text })
      else return some (← inside cutter c)
    | .variable =>
      let length := variableEndLength cutter.rest
      if cutter.unclosed.isEmpty ∧ 0 < length then
        return some ([.variableEnd], { cutter.advance length with mode := .text })
      else return some (← inside cutter c)

/-- Cut until the text ends or cannot be cut. -/
def collect : (bound : Nat) → Cutter → TokenStream
  | 0, _ => ⟨[], none⟩
  | bound + 1, cutter =>
    match cutter.step with
    | .error failure => ⟨[], some failure⟩
    | .ok none => ⟨[], none⟩
    | .ok (some (tokens, after)) =>
      let others := collect bound after
      ⟨tokens ++ others.tokens, others.failure⟩

end Cutter

/-- The tokens of a template.  Every step of cutting reads at least one character. -/
def TokenStream.ofText (text : Text) : TokenStream :=
  let source := normalise text
  Cutter.collect (source.length + 1) ⟨.text, [], none, 0, source⟩

end Template

end HomeConfig
