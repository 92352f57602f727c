/-!
# Blanks

Every character that separates words: the spaces, tabs and line breaks of any script, and the
four information separators.
-/

namespace HomeConfig
namespace Text

/-- A space or a horizontal tab, the only blanks that indent a line. -/
def isIndent (c : Char) : Bool :=
  c == ' ' || c == '\t'

/-- A blank of any script, line breaks and information separators included. -/
def isBlank (c : Char) : Bool :=
  let code := c.toNat
  (0x09 ≤ code && code ≤ 0x0d) || (0x1c ≤ code && code ≤ 0x20) || code == 0x85 || code == 0xa0 ||
    code == 0x1680 || (0x2000 ≤ code && code ≤ 0x200a) || code == 0x2028 || code == 0x2029 ||
    code == 0x202f || code == 0x205f || code == 0x3000

theorem isBlank_of_isIndent {c : Char} (indent : isIndent c = true) : isBlank c = true := by
  rcases (by simpa [isIndent] using indent : c = ' ' ∨ c = '\t') with rfl | rfl <;> decide

/-- Leave out the blanks at the start of a text. -/
def trimStart (text : List Char) : List Char :=
  text.dropWhile isBlank

/-- Leave out the blanks at both ends of a text. -/
def trim (text : List Char) : List Char :=
  ((trimStart text).reverse.dropWhile isBlank).reverse

end Text
end HomeConfig
