import HomeConfig.Text.Position

/-!
# Changes of a document

An editor tells a change as a new text, either of the whole document or of a range of it.  In such
a range columns count units of two bytes, of which a character beyond the basic block has two, and
lines end at every line break that Unicode knows.

A place is translated leniently: a line behind the last one leads to the end of the last one, and
a column behind a line to the last place of that line before its break.  A column inside a
character leads behind it.
-/

namespace HomeConfig

/-- A change of a document. -/
inductive Change
  /-- The document has a new text. -/
  | whole (text : Text)
  /-- A range of the document has a new text. -/
  | part (range : Range) (text : Text)

namespace Change

/-- Whether a line ends at a character. -/
def isLineBreak (c : Char) : Bool :=
  c == '\n' || c == '\r' || c == '\x0b' || c == '\x0c' || c == '\x1c' || c == '\x1d' ||
    c == '\x1e' || c == '\u0085' || c == '\u2028' || c == '\u2029'

/-- Put a character in front of the first of some lines. -/
def extend (c : Char) : List Text → List Text
  | [] => [[c]]
  | line :: rest => (c :: line) :: rest

/-- The lines of a text with their breaks.  A text without characters has no line. -/
def lines : Text → List Text
  | [] => []
  | '\r' :: '\n' :: rest => ['\r', '\n'] :: lines rest
  | c :: rest => if isLineBreak c then [c] :: lines rest else extend c (lines rest)

theorem flatten_extend (c : Char) (lines : List Text) :
    (extend c lines).flatten = c :: lines.flatten := by
  cases lines <;> simp [extend]

theorem flatten_lines (text : Text) : (lines text).flatten = text := by
  fun_induction lines text with
  | case1 => rfl
  | case2 rest ih => simp [ih]
  | case3 c rest _ _ ih => simp [ih]
  | case4 c rest _ _ ih => simp [flatten_extend, ih]

/-- How many units a character has. -/
def width (c : Char) : Nat :=
  if c.toNat < 0x10000 then 1 else 2

/-- How many units a text has. -/
def units (text : Text) : Nat :=
  text.foldr (fun c units => width c + units) 0

/-- A line with its break written as one character. -/
def unify : Text → Text
  | [] => []
  | '\r' :: '\n' :: rest => '\n' :: unify rest
  | c :: rest => c :: unify rest

/-- How many characters it takes to reach a given number of units. -/
def charactersFor : Text → Nat → Nat
  | [], _ => 0
  | c :: rest, units => if units = 0 then 0 else charactersFor rest (units - width c) + 1

/-- The column of a place in a line, in characters. -/
def columnIn (line : Text) (character : Nat) : Nat :=
  let line := unify line
  let length := units line
  charactersFor line (if length < character then length - 1 else character)

/-- The place that an editor's position leads to, with its column in characters. -/
def locate (lines : List Text) (position : Position) : Position :=
  match lines[position.line]? with
  | some line => ⟨position.line, columnIn line position.character⟩
  | none =>
    match lines.getLast? with
    | some last => ⟨lines.length - 1, units last⟩
    | none => ⟨0, 0⟩

/-- What becomes of the lines from the given number on.  A range that ends on a line before the one
on which it starts changes nothing. -/
def replaceLines (start stop : Position) (text : Text) (number : Nat) : List Text → Text
  | [] => []
  | line :: rest =>
    let here :=
      if number < start.line ∨ stop.line < number then line
      else (if number = start.line then line.take start.character ++ text else []) ++
        (if number = stop.line then line.drop stop.character else [])
    here ++ replaceLines start stop text (number + 1) rest

/-- The text of a document after a change. -/
def apply (document : Text) : Change → Text
  | whole text => text
  | part range text =>
    let lines := lines document
    let start := locate lines range.start
    let stop := locate lines range.stop
    if start.line = lines.length then document ++ text
    else replaceLines start stop text 0 lines

end Change

end HomeConfig
