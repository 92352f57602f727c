import HomeConfig.Number.Shortest
import HomeConfig.Proofs.Number.Rounding
import Mathlib.Tactic.Positivity

/-!
# The shortest decimal reads back

A finite value is written with few digits, and reading them gives the value again
(`Finite.ofDecimal_shortest`).  Decimals that were tried have been found to read back; what needs an
argument is that seventeen digits are enough.  The grid of seventeen digits is finer than the
values: its points are at most `10^leading / 10^16` apart, a value is less than `2^53` units of its
last place, and `2^53 < 10^16`.  Where the unit halves, below a power of two, the value is
`2^52` units, and the grid is fine enough for that.

A decimal keeps its value when zeros at its end move into the exponent, so stripping them does not
matter, nor will the zeros that stand in the text.
-/

namespace HomeConfig

namespace Binary64

/-! ## Digits -/

theorem lt_ten_pow_decimalLength (n : Nat) : n < 10 ^ decimalLength n :=
  (Nat.length_toDigits_le_iff (by decide) Nat.length_toDigits_pos).mp le_rfl

theorem ten_pow_le {n : Nat} (filled : n ≠ 0) : 10 ^ (decimalLength n - 1) ≤ n := by
  rcases Nat.eq_zero_or_pos (decimalLength n - 1) with single | more
  · rw [single]
    exact Nat.pos_of_ne_zero filled
  · by_contra less
    have shorter := (Nat.length_toDigits_le_iff (by decide) more).mpr (Nat.lt_of_not_le less)
    unfold decimalLength at more shorter
    omega

theorem decimalLength_pos (n : Nat) : 0 < decimalLength n :=
  Nat.length_toDigits_pos

theorem decimalLength_shift {n : Nat} (filled : n ≠ 0) :
    decimalLength (10 * n) = decimalLength n + 1 := by
  have digits := Nat.toDigits_append_toDigits (b := 10) (d := 0) (by decide)
    (Nat.pos_of_ne_zero filled) (by decide)
  rw [Nat.add_zero] at digits
  rw [decimalLength, ← digits, List.length_append]
  rfl

/-! ## Decimals -/

/-- What a decimal other than zero is read as. -/
theorem ofDecimal_eq (negative : Bool) {digits : Nat} (filled : digits ≠ 0) (exponent : Int) :
    ofDecimal negative digits exponent =
      if 310 < decimalLength digits + exponent then .infinite negative
      else if decimalLength digits + exponent < -330 then zero negative
      else nearest negative (digits * 10 ^ exponent.toNat * unit) (10 ^ (-exponent).toNat) := by
  unfold ofDecimal
  rw [if_neg filled]
  generalize unit = size
  dsimp only
  congr 2
  split
  next whole =>
    have isWhole : (-exponent).toNat = 0 := by omega
    rw [isWhole]
    rfl
  next fraction =>
    have isFraction : exponent.toNat = 0 := by omega
    rw [isFraction, Nat.pow_zero, Nat.mul_one]
    rfl

theorem ofDecimal_zero (negative : Bool) (exponent : Int) :
    ofDecimal negative 0 exponent = zero negative :=
  if_pos rfl

/-- A zero at the end of the digits moves into the exponent. -/
theorem ofDecimal_shift (negative : Bool) (digits : Nat) (exponent : Int) :
    ofDecimal negative (10 * digits) exponent = ofDecimal negative digits (exponent + 1) := by
  by_cases filled : digits = 0
  · rw [filled]
    rfl
  have length : (decimalLength (10 * digits) : Int) + exponent =
      decimalLength digits + (exponent + 1) := by
    rw [decimalLength_shift filled]
    omega
  rw [ofDecimal_eq negative (Nat.mul_ne_zero (by decide) filled), ofDecimal_eq negative filled,
    length]
  generalize unit = size
  congr 2
  rcases lt_or_ge exponent 0 with fraction | whole
  · have first : exponent.toNat = 0 := by omega
    have second : (exponent + 1).toNat = 0 := by omega
    have third : (-exponent).toNat = (-(exponent + 1)).toNat + 1 := by omega
    rw [first, second, third, Nat.pow_succ, Nat.mul_comm (10 ^ _) 10, Nat.mul_assoc 10,
      Nat.mul_assoc 10, nearest_scale negative (by decide)]
  · have first : (exponent + 1).toNat = exponent.toNat + 1 := by omega
    have second : (-exponent).toNat = 0 := by omega
    have third : (-(exponent + 1)).toNat = 0 := by omega
    rw [first, second, third, Nat.pow_succ, Nat.mul_comm 10 digits, Nat.mul_assoc digits,
      Nat.mul_comm 10]

theorem ofDecimal_shift_many (negative : Bool) (digits : Nat) (exponent : Int) (count : Nat) :
    ofDecimal negative (digits * 10 ^ count) exponent =
      ofDecimal negative digits (exponent + count) := by
  induction count generalizing exponent with
  | zero => rw [Nat.pow_zero, Nat.mul_one, Int.natCast_zero, Int.add_zero]
  | succ count inductionHypothesis =>
    rw [Nat.pow_succ, Nat.mul_comm _ 10, Nat.mul_left_comm, ofDecimal_shift, inductionHypothesis]
    congr 1
    omega

namespace Finite

variable {x : Finite}

theorem exponent_of_zero (zero : x.significand = 0) : x.exponent = 0 :=
  x.normal.resolve_right (by rw [zero]; decide)

theorem finite_of_zero (zero : x.significand = 0) : Binary64.zero x.negative = .finite x := by
  have units := exponent_of_zero zero
  cases x
  cases zero
  cases units
  rfl

theorem unit_pos : 0 < unit := by decide +kernel

/-- Where the least value lies among the powers of ten. -/
theorem unit_le : ∃ power, power = 324 ∧ 2 * unit ≤ 10 ^ power := ⟨324, rfl, by decide +kernel⟩

/-- Where the greatest values lie among the powers of ten. -/
theorem greatest_le :
    ∃ power, power = 309 ∧ 3 * (2 ^ 53 * 2 ^ 2045) ≤ 2 * 10 ^ power * unit :=
  ⟨309, rfl, by decide +kernel⟩

theorem pow_le_magnitude (filled : x.significand ≠ 0) : 2 ^ x.exponent ≤ x.magnitude :=
  Nat.le_mul_of_pos_left _ (Nat.pos_of_ne_zero filled)

theorem magnitude_lt (x : Finite) : x.magnitude < 2 ^ 53 * 2 ^ 2045 := by
  have power : 2 ^ x.exponent ≤ 2 ^ 2045 := pow_le_pow_right₀ (by decide) x.exponent_le
  calc x.magnitude < 2 ^ 53 * 2 ^ x.exponent :=
        Nat.mul_lt_mul_of_pos_right x.significand_lt (Nat.two_pow_pos _)
    _ ≤ 2 ^ 53 * 2 ^ 2045 := Nat.mul_le_mul_left _ power

/-- How long a decimal near to a value can be. -/
theorem Near.length_bounds {digits whole fraction : Nat} (filled : x.significand ≠ 0)
    (near : x.Near (digits * 10 ^ whole * unit) (10 ^ fraction)) :
    digits ≠ 0 ∧ fraction < decimalLength digits + 324 + whole ∧
      decimalLength digits - 1 + whole < 309 + fraction := by
  have reach : x.margin * (2 ^ x.exponent * 10 ^ fraction) ≤ 2 * (x.magnitude * 10 ^ fraction) :=
    Nat.mul_le_mul (margin_le x) (Nat.mul_le_mul_right _ (pow_le_magnitude filled))
  have positive := Nat.lt_of_lt_of_le (Nat.two_pow_pos _) (pow_le_magnitude filled)
  have above := near.above
  have below := near.below
  have nonzero : digits ≠ 0 := by
    rintro rfl
    simp only [Nat.zero_mul] at above
    omega
  have less : x.magnitude * 10 ^ fraction < 2 ^ 53 * 2 ^ 2045 * 10 ^ fraction :=
    Nat.mul_lt_mul_of_pos_right (magnitude_lt x) (Nat.pow_pos (by decide))
  have more : 10 ^ fraction ≤ x.magnitude * 10 ^ fraction := Nat.le_mul_of_pos_left _ positive
  refine ⟨nonzero, ?_, ?_⟩
  · rcases unit_le with ⟨power, powerIs, unit_le⟩
    have shorter : 10 ^ fraction < 10 ^ (decimalLength digits + power + whole) := calc
      10 ^ fraction ≤ x.magnitude * 10 ^ fraction := more
      _ < 2 * (digits * 10 ^ whole * unit) := by omega
      _ = digits * (10 ^ whole * (2 * unit)) := by ring
      _ ≤ 10 ^ decimalLength digits * (10 ^ whole * (2 * unit)) :=
        Nat.mul_le_mul_right _ (lt_ten_pow_decimalLength digits).le
      _ ≤ 10 ^ decimalLength digits * (10 ^ whole * 10 ^ power) :=
        Nat.mul_le_mul_left _ (Nat.mul_le_mul_left _ unit_le)
      _ = 10 ^ (decimalLength digits + power + whole) := by
        rw [Nat.pow_add, Nat.pow_add, Nat.mul_comm (10 ^ whole), Nat.mul_assoc]
    rw [← powerIs]
    exact (Nat.pow_lt_pow_iff_right (by decide)).mp shorter
  · rcases greatest_le with ⟨power, powerIs, greatest_le⟩
    have shorter : 10 ^ (decimalLength digits - 1 + whole) * (2 * unit) <
        10 ^ (power + fraction) * (2 * unit) := calc
      10 ^ (decimalLength digits - 1 + whole) * (2 * unit) =
          10 ^ (decimalLength digits - 1) * (10 ^ whole * (2 * unit)) := by
        rw [Nat.pow_add, Nat.mul_assoc]
      _ ≤ digits * (10 ^ whole * (2 * unit)) := Nat.mul_le_mul_right _ (ten_pow_le nonzero)
      _ = 2 * (digits * 10 ^ whole * unit) := by ring
      _ < 3 * (2 ^ 53 * 2 ^ 2045) * 10 ^ fraction := by
        rw [Nat.mul_assoc 3]
        omega
      _ ≤ 2 * 10 ^ power * unit * 10 ^ fraction := Nat.mul_le_mul_right _ greatest_le
      _ = 10 ^ (power + fraction) * (2 * unit) := by ring
    rw [← powerIs]
    exact (Nat.pow_lt_pow_iff_right (by decide)).mp (Nat.lt_of_mul_lt_mul_right shorter)

/-- A decimal that is near to a value is read as the value. -/
theorem ofDecimal_of_near {digits : Nat} {exponent : Int} (filled : x.significand ≠ 0)
    (near : x.Near (digits * 10 ^ exponent.toNat * unit) (10 ^ (-exponent).toNat)) :
    ofDecimal x.negative digits exponent = .finite x := by
  rcases near.length_bounds filled with ⟨nonzero, least, most⟩
  have length := decimalLength_pos digits
  rw [ofDecimal_eq x.negative nonzero, if_neg (by omega), if_neg (by omega), near.nearest_eq]

/-! ## The grid of seventeen digits -/

theorem quotient_eq (x : Finite) (exponent : Int) :
    x.quotient exponent =
      (x.magnitude * 10 ^ (-exponent).toNat, unit * 10 ^ exponent.toNat) := by
  unfold quotient
  rw [natAbs_units]
  dsimp only
  split
  next whole =>
    have isWhole : (-exponent).toNat = 0 := by omega
    rw [isWhole, Nat.pow_zero, Nat.mul_one]
    rfl
  next fraction =>
    have isFraction : exponent.toNat = 0 := by omega
    rw [isFraction, Nat.pow_zero, Nat.mul_one]
    rfl

/-- The leading digit stands at a power of ten that the value reaches. -/
theorem leading_le (filled : x.significand ≠ 0) :
    ∃ length shift : Nat, x.leading = length - shift ∧
      unit * 10 ^ length ≤ x.magnitude * 10 ^ shift := by
  obtain ⟨shift, large, leading⟩ : ∃ shift, unit ≤ Nat.pow 10 shift ∧ x.leading =
      (decimalLength (x.units.natAbs * Nat.pow 10 shift / unit) : Int) - (shift + 1 : Nat) :=
    ⟨400, by decide +kernel, rfl⟩
  rw [natAbs_units, Nat.pow_eq] at leading
  rw [Nat.pow_eq] at large
  have positive := Nat.lt_of_lt_of_le (Nat.two_pow_pos _) (pow_le_magnitude filled)
  have nonzero : x.magnitude * 10 ^ shift / unit ≠ 0 := by
    have whole : 1 ≤ x.magnitude * 10 ^ shift / unit := by
      rw [Nat.le_div_iff_mul_le unit_pos, Nat.one_mul]
      exact large.trans (Nat.le_mul_of_pos_left _ positive)
    omega
  have length := decimalLength_pos (x.magnitude * 10 ^ shift / unit)
  refine ⟨decimalLength (x.magnitude * 10 ^ shift / unit) - 1, shift, by omega, ?_⟩
  calc unit * 10 ^ (decimalLength (x.magnitude * 10 ^ shift / unit) - 1) ≤
        unit * (x.magnitude * 10 ^ shift / unit) := Nat.mul_le_mul_left _ (ten_pow_le nonzero)
    _ ≤ x.magnitude * 10 ^ shift := Nat.mul_div_le _ _

/-- The points of the grid lie closer than the values. -/
theorem grid_lt (filled : x.significand ≠ 0) {exponent : Int} (grid : exponent = x.leading - 16) :
    2 * (unit * 10 ^ exponent.toNat) <
      x.margin * (2 ^ x.exponent * 10 ^ (-exponent).toNat) := by
  rcases leading_le filled with ⟨length, shift, leading, reaches⟩
  have fine : 2 * x.significand < x.margin * 10 ^ 16 := by
    have significand : x.significand < 2 ^ 53 := x.significand_lt
    unfold margin
    split <;> omega
  have balance : exponent.toNat + (shift + 16) = length + (-exponent).toNat := by omega
  have scaled : 2 * (unit * 10 ^ exponent.toNat) * 10 ^ (shift + 16) <
      x.margin * (2 ^ x.exponent * 10 ^ (-exponent).toNat) * 10 ^ (shift + 16) := calc
    2 * (unit * 10 ^ exponent.toNat) * 10 ^ (shift + 16) =
        2 * (unit * 10 ^ length) * 10 ^ (-exponent).toNat := by
      rw [Nat.mul_assoc, Nat.mul_assoc, ← Nat.pow_add, balance, Nat.pow_add, ← Nat.mul_assoc unit,
        ← Nat.mul_assoc]
    _ ≤ 2 * (x.magnitude * 10 ^ shift) * 10 ^ (-exponent).toNat :=
      Nat.mul_le_mul_right _ (Nat.mul_le_mul_left _ reaches)
    _ = 2 * x.significand * (2 ^ x.exponent * 10 ^ (-exponent).toNat * 10 ^ shift) := by
      unfold magnitude
      ring
    _ < x.margin * 10 ^ 16 * (2 ^ x.exponent * 10 ^ (-exponent).toNat * 10 ^ shift) :=
      Nat.mul_lt_mul_of_pos_right fine (by positivity)
    _ = x.margin * (2 ^ x.exponent * 10 ^ (-exponent).toNat) * 10 ^ (shift + 16) := by
      rw [Nat.pow_add]
      ring
  exact Nat.lt_of_mul_lt_mul_right scaled

/-- The point of the grid that is nearest to a value is read as the value. -/
theorem isReadFrom_grid (filled : x.significand ≠ 0) {exponent : Int}
    (grid : exponent = x.leading - 16) :
    x.isReadFrom ⟨roundDiv (x.quotient exponent).1 (x.quotient exponent).2, exponent⟩ = true := by
  have fine := grid_lt filled grid
  rw [quotient_eq]
  have positive : 0 < unit * 10 ^ exponent.toNat :=
    Nat.mul_pos unit_pos (Nat.pow_pos (by decide))
  have rounded := roundDiv_near (x.magnitude * 10 ^ (-exponent).toNat) positive
  refine beq_iff_eq.mpr (ofDecimal_of_near filled ⟨Nat.pow_pos (by decide), ?_, ?_⟩) <;>
    dsimp only <;> rw [Nat.mul_assoc, Nat.mul_comm _ unit] <;> omega

/-! ## The shortest decimal -/

theorem isReadFrom_of_onGrid? {exponent : Int} {found : Decimal}
    (onGrid : x.onGrid? exponent = some found) : x.isReadFrom found = true := by
  unfold onGrid? at onGrid
  dsimp only at onGrid
  split at onGrid
  next below above =>
    cases onGrid
    unfold roundDiv
    dsimp only
    split_ifs <;> assumption
  next below _ =>
    cases onGrid
    exact below
  next _ above =>
    cases onGrid
    exact above
  next => cases onGrid

theorem isReadFrom_of_refine {count : Nat} {exponent : Int} {found : Decimal}
    (refined : x.refine count exponent = some found) : x.isReadFrom found = true := by
  induction count generalizing exponent with
  | zero => cases refined
  | succ count inductionHypothesis =>
    unfold refine at refined
    split at refined
    next onGrid =>
      cases refined
      exact isReadFrom_of_onGrid? onGrid
    next => exact inductionHypothesis refined

theorem isReadFrom_strip (x : Finite) (count : Nat) (decimal : Decimal) :
    x.isReadFrom (decimal.strip count) = x.isReadFrom decimal := by
  induction count generalizing decimal with
  | zero => rfl
  | succ count inductionHypothesis =>
    unfold Decimal.strip
    split
    next ends =>
      have whole : 10 * (decimal.digits / 10) = decimal.digits := by omega
      rw [inductionHypothesis]
      unfold isReadFrom
      rw [← ofDecimal_shift, whole]
    next => rfl

theorem isReadFrom_shortest (filled : x.significand ≠ 0) : x.isReadFrom x.shortest = true := by
  unfold shortest
  rw [if_neg filled]
  dsimp only
  rw [isReadFrom_strip]
  cases refined : x.refine 17 x.leading with
  | some found => exact isReadFrom_of_refine refined
  | none => exact isReadFrom_grid filled rfl

theorem shortest_of_zero (zero : x.significand = 0) : x.shortest = ⟨0, 0⟩ := by
  rw [shortest, if_pos zero]

/-- What is written for a finite value is read as the value. -/
theorem ofDecimal_shortest (x : Finite) :
    ofDecimal x.negative x.shortest.digits x.shortest.exponent = .finite x := by
  by_cases zero : x.significand = 0
  · rw [shortest_of_zero zero]
    exact (ofDecimal_zero _ 0).trans (finite_of_zero zero)
  · exact beq_iff_eq.mp (isReadFrom_shortest zero)

end Finite

end Binary64

end HomeConfig
