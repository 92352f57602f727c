import HomeConfig.Number.Binary64
import HomeConfig.Text.Class.Blank
import HomeConfig.Text.Class.Digit

/-!
# Numerals

Numbers as people write them in settings and documents: blanks around them do not count, a sign
may lead, and the digits may be those of any script.
-/

namespace HomeConfig

namespace Numeral

/-- The value of a digit to a base of at most sixteen. -/
def digit? (base : Nat) (c : Char) : Option Nat :=
  let value := match Text.digitValue? c with
    | some value => some value
    | none =>
      let letter := c.toLower
      if 'a' ≤ letter ∧ letter ≤ 'f' then some (letter.toNat - 'a'.toNat + 10) else none
  value.filter (· < base)

/-- The number that digits write to a base; there must be at least one. -/
def natural? (base : Nat) (digits : List Char) : Option Nat :=
  if digits.isEmpty then none
  else digits.foldlM (fun value c => (digit? base c).map (base * value + ·)) 0

/-- A leading sign, and what follows it. -/
def splitSign : List Char → Bool × List Char
  | '-' :: rest => (true, rest)
  | '+' :: rest => (false, rest)
  | text => (false, text)

/-- The letter that announces a base in front of its digits. -/
def baseLetter? (base : Nat) : Option Char :=
  if base = 2 then some 'b' else if base = 8 then some 'o' else if base = 16 then some 'x' else none

/-- Leave out a zero and the letter of the base in front of digits. -/
def dropBase (base : Nat) : List Char → List Char
  | '0' :: c :: rest => if baseLetter? base = some c.toLower then rest else '0' :: c :: rest
  | text => text

/-- Leave out the underscores between digits.  None may stand at an end or beside another. -/
def joinGroups? (digits : List Char) : Option (List Char) :=
  if digits.head? = some '_' ∨ digits.getLast? = some '_' ∨ ('_', '_') ∈ digits.zip digits.tail then none
  else some (digits.filter (· != '_'))

/-- The greatest number of decimal digits of an integer that is read. -/
def decimalLimit : Nat := 4300

/-- The integer that a text writes to a base. -/
def integer? (base : Nat) (text : List Char) : Option Int := do
  let (negative, unsigned) := splitSign (Text.trim text)
  let digits ← joinGroups? (dropBase base unsigned)
  if base = 10 ∧ decimalLimit < digits.length then none
  else
    let magnitude ← natural? base digits
    pure (if negative then -(magnitude : Int) else magnitude)

/-- Words for values that digits cannot write. -/
def special? (word : List Char) (negative : Bool) : Option Binary64 :=
  let word := word.map Char.toLower
  if word = "inf".toList ∨ word = "infinity".toList then some (.infinite negative)
  else if word = "nan".toList then some .nan
  else none

/-- Digits, an optional point with further digits, and an optional exponent. -/
def decimal? (negative : Bool) (text : List Char) : Option Binary64 := do
  let isDigit := Text.isDecimalDigit
  let whole := text.takeWhile isDigit
  let behind := text.dropWhile isDigit
  let (fraction, behind) := match behind with
    | '.' :: rest => (rest.takeWhile isDigit, rest.dropWhile isDigit)
    | _ => ([], behind)
  let digits ← natural? 10 (whole ++ fraction)
  let exponent ← match behind with
    | [] => some 0
    | c :: rest =>
      if c = 'e' ∨ c = 'E' then
        let (negative, digits) := splitSign rest
        (natural? 10 digits).map fun value => if negative then -(value : Int) else value
      else none
  pure (Binary64.ofDecimal negative digits (exponent - fraction.length))

/-- The floating-point number that a text writes. -/
def binary64? (text : List Char) : Option Binary64 :=
  let (negative, unsigned) := splitSign (Text.trim text)
  (special? unsigned negative).or (decimal? negative unsigned)

end Numeral

end HomeConfig
