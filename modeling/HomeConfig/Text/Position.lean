import HomeConfig.Text.Basic

/-!
# Positions

A position is a line and a column, both counted from zero; columns count code points and a line
ends at a line feed, which belongs to no column.  `Position.ofOffset` and `Position.toOffset`
translate between positions and offsets of one text, and both clamp: an offset outside the text
goes to the nearest end, a column behind a line to the end of that line, a line behind the text to
the end of the text.
-/

namespace HomeConfig

/-- A line and a column, counted from zero. -/
structure Position where
  line : Nat
  character : Nat
deriving DecidableEq, Repr

/-- A stretch of a document: where it begins and the first position behind it. -/
structure Range where
  start : Position
  stop : Position
deriving DecidableEq, Repr

namespace Position

/-- The greatest line and the greatest column an editor may send. -/
def limit : Nat := 2147483647

/-- The position with the given coordinates, if both are within the limit. -/
def ofCoordinates? (line character : Int) : Option Position :=
  if 0 ≤ line ∧ line ≤ limit ∧ 0 ≤ character ∧ character ≤ limit then
    some ⟨line.toNat, character.toNat⟩
  else none

/-- Before: an earlier line, or an earlier column of the same line. -/
protected def lt (first second : Position) : Prop :=
  first.line < second.line ∨ first.line = second.line ∧ first.character < second.character

instance : LT Position := ⟨Position.lt⟩

instance (first second : Position) : Decidable (first < second) :=
  inferInstanceAs (Decidable (_ ∨ _))

/-- The position after `offset` code points of a text. -/
def ofOffset : Text → Nat → Position
  | [], _ => ⟨0, 0⟩
  | _ :: _, 0 => ⟨0, 0⟩
  | c :: rest, offset + 1 =>
    let after := ofOffset rest offset
    if c = '\n' then ⟨after.line + 1, after.character⟩
    else if after.line = 0 then ⟨0, after.character + 1⟩
    else after

/-- The position of a signed offset, clamped to the text. -/
def ofSigned (text : Text) (offset : Int) : Position :=
  ofOffset text offset.toNat

/-- The offset of a line and a column. -/
def toOffset : Text → Position → Nat
  | [], _ => 0
  | c :: rest, ⟨0, column⟩ =>
    if c = '\n' ∨ column = 0 then 0 else toOffset rest ⟨0, column - 1⟩ + 1
  | c :: rest, ⟨line + 1, column⟩ =>
    if c = '\n' then toOffset rest ⟨line, column⟩ + 1
    else toOffset rest ⟨line + 1, column⟩ + 1

end Position

namespace Range

/-- The range between two offsets of a text. -/
def ofOffsets (text : Text) (start stop : Nat) : Range :=
  ⟨Position.ofOffset text start, Position.ofOffset text stop⟩

/-- The empty range at the start of a document. -/
def fileStart : Range := ⟨⟨0, 0⟩, ⟨0, 0⟩⟩

end Range

end HomeConfig
