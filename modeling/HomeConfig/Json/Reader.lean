import HomeConfig.Json.Basic
import HomeConfig.Text.Hexadecimal
import HomeConfig.Text.Recogniser

/-!
# Reading JSON

The reader accepts standard JSON and, as numbers, `NaN` and the two infinities.  A repeated key
keeps its first place and its last value.  What is wrong with a text is a `Flaw` at an offset;
its message counts lines and columns from one.

An integer may have at most `integerLimit` digits.
-/

namespace HomeConfig

namespace Json

/-- What is wrong with a text that is not JSON. -/
inductive Flaw
  | value
  | name
  | colon
  | comma
  | unterminated
  | controlCharacter
  | escape
  | unicodeEscape
  | trailing
  | byteOrderMark
deriving DecidableEq, Repr

/-- The wording of a flaw. -/
def Flaw.message : Flaw → String
  | .value => "Expecting value"
  | .name => "Expecting property name enclosed in double quotes"
  | .colon => "Expecting ':' delimiter"
  | .comma => "Expecting ',' delimiter"
  | .unterminated => "Unterminated string starting at"
  | .controlCharacter => "Invalid control character at"
  | .escape => "Invalid \\escape"
  | .unicodeEscape => "Invalid \\uXXXX escape"
  | .trailing => "Extra data"
  | .byteOrderMark => "Unexpected UTF-8 BOM (decode using utf-8-sig)"

/-- The greatest number of digits of an integer. -/
def integerLimit : Nat := 4300

/-- Why a text cannot be read. -/
inductive ReadError
  | flawed (flaw : Flaw) (offset : Nat)
  | integerTooLong (digits : Nat)
deriving DecidableEq, Repr

/-- The message of an error about a text. -/
def ReadError.message (text : Text) : ReadError → String
  | .flawed flaw offset =>
    let passed := text.take offset
    let line := passed.count '\n' + 1
    let column := (passed.reverse.takeWhile (· != '\n')).length + 1
    flaw.message ++ s!": line {line} column {column} (char {offset})"
  | .integerTooLong digits =>
    s!"Exceeds the limit ({integerLimit} digits) for integer string conversion: " ++
      s!"value has {digits} digits; use sys.set_int_max_str_digits() to increase the limit"

/-! ## Lexical parts -/

/-- The blanks between the parts of a JSON text. -/
def isSpace (c : Char) : Bool :=
  c == ' ' || c == '\t' || c == '\n' || c == '\r'

/-- Move over blanks. -/
def skipSpace (cursor : Cursor) : Cursor :=
  ⟨cursor.offset + (cursor.rest.takeWhile isSpace).length, cursor.rest.dropWhile isSpace⟩

/-- The character of an escape that is a single letter. -/
def simpleEscape? (c : Char) : Option Char :=
  match c with
  | '"' => some '"'
  | '\\' => some '\\'
  | '/' => some '/'
  | 'b' => some '\x08'
  | 'f' => some '\x0c'
  | 'n' => some '\n'
  | 'r' => some '\r'
  | 't' => some '\t'
  | _ => none

/-- What the four digits of an escape, at the cursor, stand for: a 16-bit unit or, if it is the
first half of a pair and the second half follows, the character of the pair.  `mark` is the
offset of the letter that starts the escape.  A half without its partner becomes the
replacement character. -/
def readUnicodeEscape (mark : Nat) (rest : Text) : Except ReadError (Char × Nat) := do
  let flawAt (offset : Nat) : ReadError := .flawed .unicodeEscape offset
  if rest.length < 5 then throw (flawAt mark)
  let some first := Hexadecimal.number? (rest.take 4) | throw (flawAt mark)
  let behind := rest.drop 4
  if 0xd800 ≤ first ∧ first < 0xdc00 ∧ 6 < behind.length ∧ Text.startsWith ['\\', 'u'] behind then
    let some second := Hexadecimal.number? ((behind.drop 2).take 4) | throw (flawAt (mark + 6))
    if 0xdc00 ≤ second ∧ second < 0xe000 then
      pure (Char.ofNat (0x10000 + (first - 0xd800) * 0x400 + (second - 0xdc00)), 10)
    else pure ('\ufffd', 4)
  else if 0xd800 ≤ first ∧ first < 0xe000 then pure ('\ufffd', 4)
  else pure (Char.ofNat first, 4)

/-- The characters of a string up to its closing quote.  `start` is the offset of the opening
quote, `skip` counts characters that belong to an escape already read. -/
def readStringFrom (start offset skip : Nat) : Text → Except ReadError (List Char × Cursor)
  | [] => throw (.flawed .unterminated start)
  | c :: rest =>
    match skip with
    | skip + 1 => readStringFrom start (offset + 1) skip rest
    | 0 =>
      if c = '"' then pure ([], ⟨offset + 1, rest⟩)
      else if c.toNat < 0x20 then throw (.flawed .controlCharacter offset)
      else if c = '\\' then
        match rest with
        | [] => throw (.flawed .unterminated start)
        | 'u' :: digits => do
          let (decoded, length) ← readUnicodeEscape (offset + 1) digits
          let (others, cursor) ← readStringFrom start (offset + 1) (length + 1) rest
          pure (decoded :: others, cursor)
        | letter :: _ =>
          match simpleEscape? letter with
          | none => throw (.flawed .escape offset)
          | some decoded => do
            let (others, cursor) ← readStringFrom start (offset + 1) 1 rest
            pure (decoded :: others, cursor)
      else do
        let (others, cursor) ← readStringFrom start (offset + 1) 0 rest
        pure (c :: others, cursor)

/-- The number written by decimal digits. -/
def decimalNumber (digits : List Char) : Nat :=
  digits.foldl (fun value c => 10 * value + (c.toNat - '0'.toNat)) 0

/-- The digits behind a decimal point, if there is at least one. -/
def fractionDigits (text : Text) : Text :=
  match text with
  | '.' :: rest => rest.takeWhile Char.isDigit
  | _ => []

/-- An exponent: its length in the text and its value. -/
def exponentPart? (text : Text) : Option (Nat × Int) :=
  match text with
  | c :: rest =>
    if c = 'e' ∨ c = 'E' then
      let (signLength, negative) := match rest with
        | '-' :: _ => (1, true)
        | '+' :: _ => (1, false)
        | _ => (0, false)
      let digits := (rest.drop signLength).takeWhile Char.isDigit
      if digits.isEmpty then none
      else
        let value : Int := decimalNumber digits
        some (1 + signLength + digits.length, if negative then -value else value)
    else none
  | [] => none

/-- A number at the cursor. -/
def readNumber (cursor : Cursor) : Except ReadError (Json × Cursor) := do
  let negative := cursor.rest.head? == some '-'
  let sign := if negative then 1 else 0
  let unsigned := cursor.rest.drop sign
  let whole := if unsigned.head? == some '0' then ['0'] else unsigned.takeWhile Char.isDigit
  if whole.isEmpty then throw (.flawed .value cursor.offset)
  let behind := unsigned.drop whole.length
  let fraction := fractionDigits behind
  let fractionLength := if fraction.isEmpty then 0 else fraction.length + 1
  let exponent := exponentPart? (behind.drop fractionLength)
  let length := sign + whole.length + fractionLength + (exponent.map (·.1)).getD 0
  let after : Cursor := ⟨cursor.offset + length, cursor.rest.drop length⟩
  if fraction.isEmpty ∧ exponent.isNone then
    if integerLimit < whole.length then throw (.integerTooLong whole.length)
    let value : Int := decimalNumber whole
    pure (.integer (if negative then -value else value), after)
  else
    let digits := decimalNumber (whole ++ fraction)
    let power := (exponent.map (·.2)).getD 0 - fraction.length
    pure (.number (Binary64.ofDecimal negative digits power), after)

/-- The words that stand for values. -/
def wordValues : List (Text × Json) :=
  [("null".toList, null), ("true".toList, bool true), ("false".toList, bool false),
    ("NaN".toList, number .nan), ("Infinity".toList, number (.infinite false)),
    ("-Infinity".toList, number (.infinite true))]

/-- A word that stands for a value. -/
def readWord? (cursor : Cursor) : Option (Json × Cursor) :=
  wordValues.findSome? fun (word, value) =>
    (Text.stripPrefix? word cursor.rest).map fun rest =>
      (value, ⟨cursor.offset + word.length, rest⟩)

/-! ## Values -/

mutual

/-- A value at the cursor. -/
def readValue : (fuel : Nat) → Cursor → Except ReadError (Json × Cursor)
  | 0, cursor => throw (.flawed .value cursor.offset)
  | fuel + 1, cursor =>
    match cursor.rest with
    | '"' :: rest => do
      let (chars, after) ← readStringFrom cursor.offset (cursor.offset + 1) 0 rest
      pure (.string (String.ofList chars), after)
    | '\x7b' :: rest =>
      let inside := skipSpace ⟨cursor.offset + 1, rest⟩
      match inside.rest with
      | '\x7d' :: behind => pure (.object [], ⟨inside.offset + 1, behind⟩)
      | _ => do
        let (members, after) ← readMembers fuel [] inside
        pure (.object members, after)
    | '[' :: rest =>
      let inside := skipSpace ⟨cursor.offset + 1, rest⟩
      match inside.rest with
      | ']' :: behind => pure (.array [], ⟨inside.offset + 1, behind⟩)
      | _ => do
        let (items, after) ← readItems fuel inside
        pure (.array items, after)
    | _ =>
      match readWord? cursor with
      | some found => pure found
      | none => readNumber cursor

/-- The items of an array from one of them to the closing bracket. -/
def readItems : (fuel : Nat) → Cursor → Except ReadError (List Json × Cursor)
  | 0, cursor => throw (.flawed .value cursor.offset)
  | fuel + 1, cursor => do
    let (item, behind) ← readValue fuel cursor
    let after := skipSpace behind
    match after.rest with
    | ']' :: rest => pure ([item], ⟨after.offset + 1, rest⟩)
    | ',' :: rest =>
      let (others, last) ← readItems fuel (skipSpace ⟨after.offset + 1, rest⟩)
      pure (item :: others, last)
    | _ => throw (.flawed .comma after.offset)

/-- The members of an object from one of them to the closing brace, behind those already read. -/
def readMembers : (fuel : Nat) → List (String × Json) → Cursor →
    Except ReadError (List (String × Json) × Cursor)
  | 0, _, cursor => throw (.flawed .value cursor.offset)
  | fuel + 1, found, cursor => do
    match cursor.rest with
    | '"' :: rest =>
      let (chars, behindName) ← readStringFrom cursor.offset (cursor.offset + 1) 0 rest
      let colon := skipSpace behindName
      match colon.rest with
      | ':' :: rest =>
        let (value, behind) ← readValue fuel (skipSpace ⟨colon.offset + 1, rest⟩)
        let members := insert (String.ofList chars) value found
        let after := skipSpace behind
        match after.rest with
        | '\x7d' :: rest => pure (members, ⟨after.offset + 1, rest⟩)
        | ',' :: rest => readMembers fuel members (skipSpace ⟨after.offset + 1, rest⟩)
        | _ => throw (.flawed .comma after.offset)
      | _ => throw (.flawed .colon colon.offset)
    | _ => throw (.flawed .name cursor.offset)

end

/-- The value that a whole text holds. -/
def read (text : Text) : Except ReadError Json := do
  if text.head? == some '\ufeff' then throw (.flawed .byteOrderMark 0)
  let (value, after) ← readValue (2 * text.length + 2) (skipSpace ⟨0, text⟩)
  let last := skipSpace after
  if last.rest.isEmpty then pure value else throw (.flawed .trailing last.offset)

end Json

end HomeConfig
