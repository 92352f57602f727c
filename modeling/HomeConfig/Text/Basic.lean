/-!
# Texts

A document, a line or a template is a text: a list of code points.  Offsets count code points, so
every cut of a text is a `take` or a `drop`, and lines end at line feeds only.

An offset may be signed.  A negative one counts from the end of the text, and either kind is
clamped to the text before it is used to cut (`bound`).
-/

namespace HomeConfig

/-- A sequence of code points. -/
abbrev Text := List Char

namespace Text

/-- The lines of a text, without the line feeds that separate them.  There is always at least one
line, and `n` line feeds make `n + 1` lines. -/
def lines : Text → List Text
  | [] => [[]]
  | c :: rest =>
    match lines rest with
    | [] => [[c]]
    | first :: others => if c = '\n' then [] :: first :: others else (c :: first) :: others

theorem lines_ne_nil (text : Text) : lines text ≠ [] := by
  cases text with
  | nil => simp [lines]
  | cons c rest =>
    simp only [lines]
    split
    · simp
    · split <;> simp

theorem lines_newline (rest : Text) : lines ('\n' :: rest) = [] :: lines rest := by
  cases shape : lines rest with
  | nil => exact absurd shape (lines_ne_nil rest)
  | cons first others => simp [lines, shape]

/-- The line with a given number, or an empty text when there is no such line. -/
def lineAt (text : Text) (line : Int) : Text :=
  if line < 0 then [] else (lines text)[line.toNat]?.getD []

/-- Where a signed offset cuts a text of the given length. -/
def bound (length : Nat) (offset : Int) : Nat :=
  if offset < 0 then (length + offset).toNat else min offset.toNat length

theorem bound_le (length : Nat) (offset : Int) : bound length offset ≤ length := by
  simp only [bound]
  split <;> omega

theorem bound_of_le {length offset : Nat} (inside : offset ≤ length) :
    bound length offset = offset := by
  simp only [bound]
  split <;> omega

/-- The part of a text before a signed offset. -/
def before (text : Text) (offset : Int) : Text :=
  text.take (bound text.length offset)

/-- What follows a given start of a text; `none` when the text starts otherwise. -/
def stripPrefix? : (start : Text) → Text → Option Text
  | [], text => some text
  | _ :: _, [] => none
  | s :: start, c :: text => if s = c then stripPrefix? start text else none

theorem stripPrefix?_eq_some_iff {start text rest : Text} :
    stripPrefix? start text = some rest ↔ text = start ++ rest := by
  induction start generalizing text with
  | nil => simp [stripPrefix?, eq_comm]
  | cons s start ih =>
    cases text with
    | nil => simp [stripPrefix?]
    | cons c text =>
      by_cases same : s = c
      · subst same; simp [stripPrefix?, ih]
      · simp [stripPrefix?, same, Ne.symm same]

/-- Whether a text starts in a given way. -/
def startsWith (start text : Text) : Bool :=
  (stripPrefix? start text).isSome

/-- Whether a text ends in a given way. -/
def endsWith (ending text : Text) : Bool :=
  startsWith ending.reverse text.reverse

/-- The first offset at which a part occurs in a text. -/
def firstIndex? (part : Text) : Text → Option Nat
  | [] => if part.isEmpty then some 0 else none
  | c :: rest =>
    if startsWith part (c :: rest) then some 0 else (firstIndex? part rest).map (· + 1)

/-- The last offset at which a part occurs in a text. -/
def lastIndex? (part : Text) : Text → Option Nat
  | [] => if part.isEmpty then some 0 else none
  | c :: rest =>
    match lastIndex? part rest with
    | some found => some (found + 1)
    | none => if startsWith part (c :: rest) then some 0 else none

/-- Whether a part occurs in a text. -/
def contains (part text : Text) : Bool :=
  (firstIndex? part text).isSome

/-- Cut a text at every occurrence of one character. -/
def splitAt (separator : Char) : Text → List Text
  | [] => [[]]
  | c :: rest =>
    match splitAt separator rest with
    | [] => [[c]]
    | first :: others => if c = separator then [] :: first :: others else (c :: first) :: others

/-- What precedes the first occurrence of a character, and what follows it if it occurs. -/
def cut (separator : Char) (text : Text) : Text × Option Text :=
  match text.dropWhile (· != separator) with
  | [] => (text, none)
  | _ :: rest => (text.takeWhile (· != separator), some rest)

/-- A text in which every carriage return, with the line feed behind it if there is one, is written
as a line feed. -/
def unifyBreaks : Text → Text
  | [] => []
  | '\r' :: '\n' :: rest => '\n' :: unifyBreaks rest
  | '\r' :: rest => '\n' :: unifyBreaks rest
  | c :: rest => c :: unifyBreaks rest

end Text

end HomeConfig
