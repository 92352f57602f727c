import HomeConfig.Text.Basic

/-!
# Characters and marks

The characters a document may hold, the classes its syntax distinguishes, and the marks that say
where something stands.  Five characters break a line, a carriage return only where no line feed
follows it; a byte order mark takes no column.

The end of the text reads as the null character, which no document may contain.
-/

namespace HomeConfig

namespace Yaml

/-- What reads at the end of a text. -/
def endOfText : Char := '\x00'

/-- A character that a document may contain. -/
def isAcceptable (c : Char) : Bool :=
  let code := c.toNat
  code == 0x9 || code == 0xa || code == 0xd || (0x20 ≤ code && code ≤ 0x7e) || code == 0x85 ||
    (0xa0 ≤ code && code ≤ 0xfffd) || 0x10000 ≤ code

/-- A character that ends a line. -/
def isBreak (c : Char) : Bool :=
  c == '\n' || c == '\r' || c == '\u0085' || c == '\u2028' || c == '\u2029'

/-- A line break or the end of the text. -/
def isBreakOrEnd (c : Char) : Bool :=
  isBreak c || c == endOfText

/-- A space, a line break or the end of the text. -/
def isSpaceBreakOrEnd (c : Char) : Bool :=
  isBreakOrEnd c || c == ' '

/-- A space, a tab, a line break or the end of the text. -/
def isBlankBreakOrEnd (c : Char) : Bool :=
  isSpaceBreakOrEnd c || c == '\t'

/-- A character of an anchor, of a tag handle or of the name of a directive. -/
def isNameChar (c : Char) : Bool :=
  c.isAlphanum || c == '-' || c == '_'

/-- A character of a tag that is written as it is, or the percent sign of an escape. -/
def isTagChar (c : Char) : Bool :=
  c.isAlphanum || "-;/?:@&=+$,_.!~*'()[]%".toList.contains c

/-- A place in a document: how many characters lie before it, and its line and column. -/
structure Mark where
  offset : Nat
  line : Nat
  column : Nat
deriving DecidableEq, Repr

namespace Mark

/-- The mark at the start of a document. -/
def start : Mark := ⟨0, 0, 0⟩

/-- The mark behind a character, given the one that follows it. -/
def after (mark : Mark) (c next : Char) : Mark :=
  if isBreak c && !(c == '\r' && next == '\n') then ⟨mark.offset + 1, mark.line + 1, 0⟩
  else if c ≠ '\ufeff' then ⟨mark.offset + 1, mark.line, mark.column + 1⟩
  else ⟨mark.offset + 1, mark.line, mark.column⟩

end Mark

end Yaml

end HomeConfig
