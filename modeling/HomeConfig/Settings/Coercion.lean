import HomeConfig.Failure
import HomeConfig.Number.Numeral

/-!
# Values of settings

A setting comes from the environment as a text or from a caller as any value.  Texts are never
made from other values.  Numbers may be written as texts, and truth values count as zero and one;
an integer may also be given by a floating-point value without a fraction.
-/

namespace HomeConfig

namespace Coercion

/-- Leave out a point behind which only zeros stand. -/
def dropZeroFraction (text : Text) : Text :=
  match Text.cut '.' text with
  | (whole, some fraction) => if fraction.all (· == '0') then whole else text
  | (_, none) => text

/-- The natural number that some digits write. -/
def natural? (digits : Text) : Option Nat := do
  let digits ← Numeral.joinGroups? (dropZeroFraction digits)
  if digits.isEmpty ∨ !digits.all Char.isDigit then none
  else some (digits.foldl (fun value c => 10 * value + (c.toNat - '0'.toNat)) 0)

/-- The integer that a text writes. -/
def integerText? (text : Text) : Option Int :=
  match text with
  | '+' :: digits => (natural? digits).map Int.ofNat
  | '-' :: digits => (natural? digits).map fun value => -(value : Int)
  | digits => (natural? digits).map Int.ofNat

/-- An integer field. -/
def integer (field : String) : Json → Checked Int
  | .integer value => Checked.pure value
  | .bool value => Checked.pure (if value then 1 else 0)
  | .number value =>
    match value, value.toInt? with
    | _, some n => Checked.pure n
    | .finite _, none => Checked.flaw field .notIntegral
    | _, none => Checked.flaw field .notFinite
  | .string text =>
    let text := Text.trim text.toList
    if Numeral.decimalLimit < text.length then Checked.flaw field .integerTooLong
    else match integerText? text with
      | some value => Checked.pure value
      | none => Checked.flaw field .unreadableInteger
  | _ => Checked.flaw field .notInteger

/-- The floating-point number that a text of basic characters writes. -/
def numberText? (text : Text) : Option Binary64 :=
  if text.all (·.toNat < 0x80) then
    (Numeral.binary64? text).or ((Numeral.joinGroups? text).bind Numeral.binary64?)
  else none

/-- A floating-point field. -/
def number (field : String) : Json → Checked Binary64
  | .integer value => Checked.pure (Binary64.ofInt value)
  | .bool value => Checked.pure (if value then 1 else 0)
  | .number value => Checked.pure value
  | .string text =>
    match numberText? (Text.trim text.toList) with
    | some value => Checked.pure value
    | none => Checked.flaw field .unreadableNumber
  | _ => Checked.flaw field .notNumber

/-- A field that must be one of several words. -/
def choice {α : Type} (field : String) (choices : List (String × α)) : Json → Checked α
  | .string word =>
    match List.lookup word choices with
    | some value => Checked.pure value
    | none => Checked.flaw field .notAChoice
  | _ => Checked.flaw field .notAChoice

/-- A field that must also pass a test. -/
def ensure {α : Type} (field : String) (fault : FieldFault) (test : α → Bool) :
    Checked α → Checked α
  | .ok value => if test value then Checked.pure value else Checked.flaw field fault
  | .error flaws => .error flaws

end Coercion

end HomeConfig
