/-!
# Binary floating point of 64 bits

A finite value is a sign, a significand below `2^53` and an exponent that counts up from the least
one, so the value is `± significand * 2^(exponent - 1074)`.  The fields make the representation
unique: only the least exponent has a significand below `2^52`.

Every operation computes its exact result as a quotient of natural numbers and rounds once
(`Binary64.nearest`): to the nearest value, and between two to the one with an even significand.
A result too large to be finite becomes infinite.
-/

namespace HomeConfig

namespace Binary64

/-- A finite value in the only form that represents it. -/
structure Finite where
  negative : Bool
  significand : Nat
  exponent : Nat
  significand_lt : significand < Nat.pow 2 53
  normal : exponent = 0 ∨ Nat.pow 2 52 ≤ significand
  exponent_le : exponent ≤ 2045
deriving DecidableEq

end Binary64

/-- A value of the binary format of 64 bits. -/
inductive Binary64
  | finite (value : Binary64.Finite)
  | infinite (negative : Bool)
  | nan
deriving DecidableEq

namespace Binary64

/-- The least positive value is one over this number. -/
def unit : Nat := Nat.pow 2 1074

/-- A quotient rounded to the nearest natural number, a tie to the even one. -/
def roundDiv (numerator denominator : Nat) : Nat :=
  let quotient := numerator / denominator
  let twice := 2 * (numerator % denominator)
  if twice < denominator then quotient
  else if denominator < twice then quotient + 1
  else if quotient % 2 = 0 then quotient else quotient + 1

/-- The value with the given fields; infinite when they do not fit. -/
def make (negative : Bool) (significand exponent : Nat) : Binary64 :=
  if fits : significand < Nat.pow 2 53 ∧ (exponent = 0 ∨ Nat.pow 2 52 ≤ significand) ∧
      exponent ≤ 2045 then
    .finite ⟨negative, significand, exponent, fits.1, fits.2.1, fits.2.2⟩
  else .infinite negative

/-- The value nearest to `numerator / denominator` units. -/
def nearest (negative : Bool) (numerator denominator : Nat) : Binary64 :=
  let shift := (numerator / denominator).log2 + 1 - 53
  let significand := roundDiv numerator (denominator * Nat.pow 2 shift)
  if significand < Nat.pow 2 53 then make negative significand shift
  else make negative (Nat.pow 2 52) (shift + 1)

/-- Zero of either sign. -/
def zero (negative : Bool) : Binary64 :=
  .finite ⟨negative, 0, 0, by decide, .inl rfl, by decide⟩

/-- How many digits the decimal form of a number has. -/
def decimalLength (n : Nat) : Nat :=
  (Nat.toDigits 10 n).length

/-- The value nearest to `digits * 10^exponent`.  Exponents far outside the range of the format
are decided without computing the power. -/
def ofDecimal (negative : Bool) (digits : Nat) (exponent : Int) : Binary64 :=
  if digits = 0 then zero negative
  else
    let magnitude := decimalLength digits + exponent
    if 310 < magnitude then .infinite negative
    else if magnitude < -330 then zero negative
    else if 0 ≤ exponent then nearest negative (digits * Nat.pow 10 exponent.toNat * unit) 1
    else nearest negative (digits * unit) (Nat.pow 10 (-exponent).toNat)

/-- The value nearest to an integer. -/
def ofInt (n : Int) : Binary64 :=
  nearest (n < 0) (n.natAbs * unit) 1

/-- The value nearest to an integer, unless it lies beyond every finite value. -/
def ofInt? (n : Int) : Option Binary64 :=
  match ofInt n with
  | .finite value => some (.finite value)
  | _ => none

instance (n : Nat) : OfNat Binary64 n := ⟨ofInt n⟩

instance : Inhabited Binary64 := ⟨zero false⟩

namespace Finite

/-- The value as a number of units. -/
def units (x : Finite) : Int :=
  let magnitude : Int := (x.significand * Nat.pow 2 x.exponent : Nat)
  if x.negative then -magnitude else magnitude

/-- The integer part, if the value is an integer. -/
def toInt? (x : Finite) : Option Int :=
  if x.units % (unit : Int) = 0 then some (x.units / (unit : Int)) else none

end Finite

/-- The value nearest to a number of units; zero keeps the given sign. -/
def ofUnits (negativeZero : Bool) (units : Int) : Binary64 :=
  if units = 0 then zero negativeZero else nearest (units < 0) units.natAbs 1

/-- Change the sign. -/
def neg : Binary64 → Binary64
  | .finite x => .finite { x with negative := !x.negative }
  | .infinite negative => .infinite !negative
  | .nan => .nan

/-- The sum. -/
def add : Binary64 → Binary64 → Binary64
  | .finite x, .finite y => ofUnits (x.negative && y.negative) (x.units + y.units)
  | .infinite n, .infinite m => if n = m then .infinite n else .nan
  | .infinite n, .finite _ => .infinite n
  | .finite _, .infinite n => .infinite n
  | .nan, _ => .nan
  | _, .nan => .nan

/-- The difference. -/
def sub (x y : Binary64) : Binary64 :=
  add x (neg y)

/-- The product. -/
def mul : Binary64 → Binary64 → Binary64
  | .finite x, .finite y =>
    let product := x.units * y.units
    if product = 0 then zero (x.negative != y.negative)
    else nearest (product < 0) product.natAbs unit
  | .infinite n, .infinite m => .infinite (n != m)
  | .infinite n, .finite y => if y.significand = 0 then .nan else .infinite (n != y.negative)
  | .finite x, .infinite n => if x.significand = 0 then .nan else .infinite (x.negative != n)
  | .nan, _ => .nan
  | _, .nan => .nan

instance : Add Binary64 := ⟨add⟩
instance : Sub Binary64 := ⟨sub⟩
instance : Mul Binary64 := ⟨mul⟩
instance : Neg Binary64 := ⟨neg⟩

/-- Strictly less; a NaN is comparable to nothing. -/
def less : Binary64 → Binary64 → Bool
  | .finite x, .finite y => x.units < y.units
  | .infinite n, .infinite m => n && !m
  | .infinite n, .finite _ => n
  | .finite _, .infinite n => !n
  | .nan, _ => false
  | _, .nan => false

/-- Numerically equal: zeros of both signs are, a NaN equals nothing. -/
def same : Binary64 → Binary64 → Bool
  | .finite x, .finite y => x.units == y.units
  | .infinite n, .infinite m => n == m
  | _, _ => false

instance : LT Binary64 := ⟨fun x y => less x y = true⟩

instance (x y : Binary64) : Decidable (x < y) :=
  inferInstanceAs (Decidable (less x y = true))

instance : LE Binary64 := ⟨fun x y => less x y = true ∨ same x y = true⟩

instance (x y : Binary64) : Decidable (x ≤ y) :=
  inferInstanceAs (Decidable (_ ∨ _))

/-- Whether the value is zero of either sign. -/
def isZero : Binary64 → Bool
  | .finite x => x.significand == 0
  | _ => false

/-- The integer that the value equals, if it is one. -/
def toInt? : Binary64 → Option Int
  | .finite x => x.toInt?
  | _ => none

end Binary64

end HomeConfig
