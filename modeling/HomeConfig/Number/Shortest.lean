import HomeConfig.Number.Binary64

/-!
# Shortest decimals

A floating-point value is written with the fewest decimal digits that read back as the same value,
and among those with the ones nearest to it.  A decimal of `n` digits that reads back exists
exactly if one of the value's two neighbours on the grid of `n` digits does, so only these two are
tried.  Seventeen digits are always enough.
-/

namespace HomeConfig

/-- A decimal `digits * 10^exponent`. -/
structure Decimal where
  digits : Nat
  exponent : Int
deriving DecidableEq, Repr

namespace Decimal

/-- Move trailing zeros of the digits into the exponent. -/
def strip (fuel : Nat) (d : Decimal) : Decimal :=
  match fuel with
  | 0 => d
  | fuel + 1 =>
    if d.digits ≠ 0 ∧ d.digits % 10 = 0 then strip fuel ⟨d.digits / 10, d.exponent + 1⟩ else d

end Decimal

namespace Binary64

namespace Finite

/-- The magnitude over `10^exponent` as a quotient of natural numbers. -/
def quotient (x : Finite) (exponent : Int) : Nat × Nat :=
  let units := x.units.natAbs
  if 0 ≤ exponent then (units, unit * Nat.pow 10 exponent.toNat)
  else (units * Nat.pow 10 (-exponent).toNat, unit)

/-- The power of ten of the leading digit; the value must not be zero. -/
def leading (x : Finite) : Int :=
  (decimalLength (x.units.natAbs * Nat.pow 10 400 / unit) : Int) - 401

/-- Whether a decimal reads back as the value. -/
def isReadFrom (x : Finite) (d : Decimal) : Bool :=
  ofDecimal x.negative d.digits d.exponent == .finite x

/-- The decimal nearest to the value among those on the grid `10^exponent` that read back. -/
def onGrid? (x : Finite) (exponent : Int) : Option Decimal :=
  let (numerator, denominator) := x.quotient exponent
  let below : Decimal := ⟨numerator / denominator, exponent⟩
  let above : Decimal := ⟨numerator / denominator + 1, exponent⟩
  let nearer : Decimal := ⟨roundDiv numerator denominator, exponent⟩
  match x.isReadFrom below, x.isReadFrom above with
  | true, true => some nearer
  | true, false => some below
  | false, true => some above
  | false, false => none

/-- The first decimal that reads back when the grid is refined digit by digit. -/
def refine (x : Finite) : (digits : Nat) → (exponent : Int) → Option Decimal
  | 0, _ => none
  | digits + 1, exponent =>
    match x.onGrid? exponent with
    | some found => some found
    | none => refine x digits (exponent - 1)

/-- The shortest decimal that reads back as the magnitude of the value. -/
def shortest (x : Finite) : Decimal :=
  if x.significand = 0 then ⟨0, 0⟩
  else
    let exponent := x.leading
    let found := (x.refine 17 exponent).getD
      ⟨roundDiv (x.quotient (exponent - 16)).1 (x.quotient (exponent - 16)).2, exponent - 16⟩
    found.strip 20

end Finite

/-- How finite values, infinities and the value that is no number are spelled. -/
structure Spelling where
  infinity : String
  nan : String

/-- The decimal digits with a point after `point` of them. -/
def positional (digits : List Char) (point : Int) : List Char :=
  if point ≤ 0 then '0' :: '.' :: List.replicate (-point).toNat '0' ++ digits
  else if digits.length ≤ point then
    digits ++ List.replicate (point.toNat - digits.length) '0' ++ ['.', '0']
  else digits.take point.toNat ++ '.' :: digits.drop point.toNat

/-- An exponent with its sign and at least two digits. -/
def exponentText (exponent : Int) : List Char :=
  let digits := Nat.toDigits 10 exponent.natAbs
  'e' :: (if exponent < 0 then '-' else '+') ::
    (if digits.length < 2 then '0' :: digits else digits)

/-- The decimal digits with the point after the first and an exponent. -/
def scientific (digits : List Char) (exponent : Int) : List Char :=
  match digits with
  | [] => []
  | [d] => d :: exponentText exponent
  | d :: others => d :: '.' :: others ++ exponentText exponent

/-- The text of a value: its shortest digits, positional from a ten-thousandth up to sixteen
digits before the point and with an exponent otherwise. -/
def render (spelling : Spelling) : Binary64 → String
  | .finite x =>
    let shortest := x.shortest
    let digits := Nat.toDigits 10 shortest.digits
    let point := digits.length + shortest.exponent
    let magnitude :=
      if x.significand = 0 then ['0', '.', '0']
      else if -4 < point ∧ point ≤ 16 then positional digits point
      else scientific digits (point - 1)
    String.ofList (if x.negative then '-' :: magnitude else magnitude)
  | .infinite negative => if negative then "-" ++ spelling.infinity else spelling.infinity
  | .nan => spelling.nan

/-- The spelling used in plain text. -/
def plainSpelling : Spelling := ⟨"inf", "nan"⟩

/-- The text of a value where it stands for itself. -/
def toText (x : Binary64) : String :=
  x.render plainSpelling

end Binary64

end HomeConfig
