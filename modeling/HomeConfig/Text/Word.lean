import HomeConfig.Text.Class.Blank
import HomeConfig.Text.Class.Word
import HomeConfig.Text.Recogniser

/-!
# Words without regard to case

Keywords and identifiers are compared without regard to case.  Under the case folding of Unicode
four letters beyond the basic block fold into it, and they count as the letters they fold to:
the dotted capital I and the dotless small i, the long s, and the Kelvin sign.
-/

namespace HomeConfig

namespace Text

/-- The basic letter that a character folds to. -/
def foldLetter (c : Char) : Char :=
  if c = '\u0130' ∨ c = '\u0131' then 'i'
  else if c = '\u017f' then 's'
  else if c = '\u212a' then 'k'
  else c.toLower

/-- Whether a character is the given lower-case letter or sign without regard to case. -/
def sameLetter (letter c : Char) : Bool :=
  letter == foldLetter c

/-- A letter that folds into the basic block, or the underscore. -/
def isNameLetter (c : Char) : Bool :=
  (foldLetter c).isLower || c == '_'

/-- A letter that folds into the basic block, a decimal digit, or the underscore. -/
def isNameChar (c : Char) : Bool :=
  isNameLetter c || c.isDigit

/-- A single or a double quotation mark. -/
def isQuote (c : Char) : Bool :=
  c == '\'' || c == '"'

/-- Whether a word may start behind the given character. -/
def wordMayStart (before : Option Char) : Bool :=
  !before.any isWord

/-- Whether a word ends in front of the given character. -/
def wordMayEnd (next : Option Char) : Bool :=
  !next.any isWord

end Text

namespace Recogniser

open Text

/-- A keyword in any case. -/
def keyword (word : String) : Recogniser Unit :=
  literalBy sameLetter word.toList

/-- One of several keywords in any case. -/
def anyKeyword (words : List String) : Recogniser Unit :=
  firstOf (words.map keyword)

/-- A dotted name such as `light.kitchen`: letters, a dot, then letters and digits. -/
def dottedName : Recogniser Excerpt := do
  let domain ← run1 isNameLetter
  literal ['.']
  let name ← run1 isNameChar
  pure ⟨domain.start, domain.text ++ '.' :: name.text⟩

end Recogniser

end HomeConfig
