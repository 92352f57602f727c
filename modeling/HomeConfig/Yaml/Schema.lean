import HomeConfig.Text.Hexadecimal
import HomeConfig.Text.Recogniser
import HomeConfig.Yaml.Mark

/-!
# Tags of plain scalars

A scalar that is written without quotes and without a tag gets its tag from its form: a truth
value, a number, a date, a null, or one of the two signs with a meaning of their own.  Everything
else is a text.  The forms are those of the first major version of the language: `yes` and `off`
are truth values, a leading zero makes an octal number, and colons make numbers to base sixty.
-/

namespace HomeConfig

namespace Yaml

/-- The tag of the core schema with the given name. -/
def coreTag (name : String) : String :=
  "tag:yaml.org,2002:" ++ name

namespace Schema

open Recogniser

/-- Whether a form accepts a whole text.  A line feed at the very end is overlooked. -/
def accepts (form : Recogniser Unit) (text : Text) : Bool :=
  match StateT.run form ⟨0, text⟩ with
  | some ((), after) => after.rest.isEmpty || after.rest == ['\n']
  | none => false

/-- The words for truth values. -/
def truthWords : List String :=
  ["yes", "Yes", "YES", "no", "No", "NO", "true", "True", "TRUE", "false", "False", "FALSE",
    "on", "On", "ON", "off", "Off", "OFF"]

/-- The words for nothing. -/
def nullWords : List String := ["~", "null", "Null", "NULL", ""]

/-- A digit or an underscore between digits. -/
def isSpacedDigit (c : Char) : Bool :=
  c.isDigit || c == '_'

/-- A sign, if there is one. -/
def sign : Recogniser Unit :=
  skipOne fun c => c == '-' || c == '+'

/-- Digits, of which the first is no underscore. -/
def digits : Recogniser Unit := do
  let _ ← one Char.isDigit
  skip isSpacedDigit

/-- Digits, of which the first is neither an underscore nor zero. -/
def digitsNotZero : Recogniser Unit := do
  let _ ← one fun c => c.isDigit && c != '0'
  skip isSpacedDigit

/-- A signed exponent, if there is one. -/
def exponent : Recogniser Unit :=
  firstOf [do
    let _ ← one fun c => c == 'e' || c == 'E'
    let _ ← one fun c => c == '-' || c == '+'
    let _ ← run1 Char.isDigit, pure ()]

/-- A part of a number to base sixty behind the first. -/
def sixtieth : Recogniser Unit := do
  literal [':']
  let first ← one Char.isDigit
  firstOf [do
    let _ ← one Char.isDigit
    require (first.toNat < '6'.toNat), do
    ahead (!·.any Char.isDigit)]

/-- All parts of a number to base sixty behind the first. -/
def sixtieths : (bound : Nat) → Recogniser Unit
  | 0 => pure ()
  | bound + 1 => do
    sixtieth
    firstOf [sixtieths bound, pure ()]

/-- The forms of floating-point numbers; `bound` is the length of the text. -/
def floatForms (bound : Nat) : List (Recogniser Unit) :=
  [do
    sign
    digits
    literal ['.']
    skip isSpacedDigit
    exponent, do
    literal ['.']
    digits
    exponent, do
    sign
    digits
    sixtieths bound
    literal ['.']
    skip isSpacedDigit, do
    sign
    firstOf ([".inf", ".Inf", ".INF"].map fun word => literal word.toList),
    firstOf ([".nan", ".NaN", ".NAN"].map fun word => literal word.toList)]

/-- The forms of integers; `bound` is the length of the text. -/
def integerForms (bound : Nat) : List (Recogniser Unit) :=
  [do
    sign
    literal ['0', 'b']
    let _ ← run1 fun c => c == '0' || c == '1' || c == '_', do
    sign
    literal ['0']
    let _ ← run1 fun c => isSpacedDigit c && c != '8' && c != '9', do
    sign
    firstOf [literal ['0'], digitsNotZero], do
    sign
    literal ['0', 'x']
    let _ ← run1 fun c => Hexadecimal.isDigit c || c == '_', do
    sign
    digitsNotZero
    sixtieths bound]

/-- One or two digits. -/
def oneOrTwo : Recogniser Unit := do
  let _ ← one Char.isDigit
  skipOne Char.isDigit

/-- Exactly `count` digits. -/
def exactly : (count : Nat) → Recogniser Unit
  | 0 => pure ()
  | count + 1 => do
    let _ ← one Char.isDigit
    exactly count

/-- A time of day behind a date. -/
def timeOfDay : Recogniser Unit := do
  let blank (c : Char) : Bool := c == ' ' || c == '\t'
  firstOf [do
    let _ ← one fun c => c == 'T' || c == 't', do
    let _ ← run1 blank]
  oneOrTwo
  literal [':']
  exactly 2
  literal [':']
  exactly 2
  firstOf [do
    literal ['.']
    skip Char.isDigit, pure ()]
  firstOf [do
    skip blank
    firstOf [literal ['Z'], do
      let _ ← one fun c => c == '-' || c == '+'
      oneOrTwo
      firstOf [do
        literal [':']
        exactly 2, pure ()]], pure ()]

/-- The forms of dates, with and without a time of day. -/
def dateForms : List (Recogniser Unit) :=
  [do
    exactly 4
    literal ['-']
    exactly 2
    literal ['-']
    exactly 2, do
    exactly 4
    literal ['-']
    oneOrTwo
    literal ['-']
    oneOrTwo
    timeOfDay]

/-- Whether a word of a list is the whole text. -/
def isWordOf (words : List String) (text : Text) : Bool :=
  words.any fun word => text == word.toList || (word != "" && text == word.toList ++ ['\n'])

/-- The tag of a plain scalar. -/
def plainTag (text : Text) : String :=
  if isWordOf truthWords text then coreTag "bool"
  else if (floatForms text.length).any (accepts · text) then coreTag "float"
  else if (integerForms text.length).any (accepts · text) then coreTag "int"
  else if isWordOf ["<<"] text then coreTag "merge"
  else if isWordOf nullWords text then coreTag "null"
  else if dateForms.any (accepts · text) then coreTag "timestamp"
  else if isWordOf ["="] text then coreTag "value"
  else if isWordOf ["!", "&", "*"] text then coreTag "yaml"
  else coreTag "str"

end Schema

end Yaml

end HomeConfig
