import HomeConfig.Text.Basic

/-!
# Hexadecimal numbers

Digits to the base sixteen stand in the escapes of strings, addresses and messages.  Small and
capital letters are read alike; numbers are written with small ones.

A character that cannot be shown is written as a backslash, a letter and its code point: `x` with
two digits, `u` with four or `U` with eight, whichever is the shortest that has room for it.
-/

namespace HomeConfig

namespace Hexadecimal

/-- The value of a digit. -/
def value? (c : Char) : Option Nat :=
  if c.isDigit then some (c.toNat - '0'.toNat)
  else if 'a' ≤ c ∧ c ≤ 'f' then some (c.toNat - 'a'.toNat + 10)
  else if 'A' ≤ c ∧ c ≤ 'F' then some (c.toNat - 'A'.toNat + 10)
  else none

/-- A hexadecimal digit. -/
def isDigit (c : Char) : Bool :=
  (value? c).isSome

/-- The number that digits write, the first of them being the highest. -/
def number? (digits : Text) : Option Nat :=
  digits.foldlM (fun number c => (value? c).map (16 * number + ·)) 0

/-- A number in at least `width` digits. -/
def padded (width number : Nat) : Text :=
  let digits := Nat.toDigits 16 number
  List.replicate (width - digits.length) '0' ++ digits

/-- The code point of a character as an escape. -/
def escape (c : Char) : Text :=
  let code := c.toNat
  if code < 0x100 then '\\' :: 'x' :: padded 2 code
  else if code < 0x10000 then '\\' :: 'u' :: padded 4 code
  else '\\' :: 'U' :: padded 8 code

/-- A digit that is written is read back. -/
theorem value?_digitChar {n : Nat} (h : n < 16) : value? (Nat.digitChar n) = some n := by
  have all : ∀ n : Fin 16, value? (Nat.digitChar n) = some n.val := by decide
  exact all ⟨n, h⟩

/-- A further digit makes the number before it sixteen times as large. -/
theorem number?_concat (digits : Text) (c : Char) :
    number? (digits ++ [c]) =
      (number? digits).bind fun number => (value? c).map (16 * number + ·) := by
  simp [number?, List.foldlM_append]

end Hexadecimal

end HomeConfig
