import HomeConfig.Text.Class.Printable
import HomeConfig.Text.Hexadecimal

/-!
# Quoted texts

A text shown inside a message stands in single quotes, or in double quotes when it holds single
quotes and no double ones.  The quote itself, backslashes and characters that cannot be shown are
escaped, the last by the shortest of three numeric forms.
-/

namespace HomeConfig

namespace Text

/-- The quote that a text is shown in. -/
def quoteFor (text : List Char) : Char :=
  if text.elem '\'' && !text.elem '"' then '"' else '\''

/-- One character between quotes. -/
def quotedChar (quote c : Char) : Text :=
  if c = quote ∨ c = '\\' then ['\\', c]
  else if c = '\n' then ['\\', 'n']
  else if c = '\r' then ['\\', 'r']
  else if c = '\t' then ['\\', 't']
  else if isPrintable c then [c]
  else Hexadecimal.escape c

/-- A text between quotes. -/
def quoted (text : Text) : Text :=
  let quote := quoteFor text
  quote :: text.flatMap (quotedChar quote) ++ [quote]

/-- A string between quotes. -/
def quotedString (s : String) : String :=
  String.ofList (quoted s.toList)

end Text

end HomeConfig
