import HomeConfig.Number.Binary64
import Mathlib.Algebra.Order.Ring.Nat
import Mathlib.Tactic.Ring

/-!
# What is rounded to a value

A quotient is rounded to a finite value if it lies nearer to it than half the way to its
neighbours.  Above a value the next one is a unit of its last place away.  Below it the next one is
as far away, except below a power of two, where the unit is half as large.  `Finite.Near` says so
with natural numbers only, in quarters of the unit, and `Near.nearest_eq` that rounding leads to the
value.
-/

namespace HomeConfig

namespace Binary64

/-! ## Quotients -/

section

variable {numerator denominator : Nat}

/-- A quotient less than a half away from a natural number is rounded to it. -/
theorem roundDiv_eq {n : Nat} (above : 2 * (n * denominator) < 2 * numerator + denominator)
    (below : 2 * numerator < 2 * (n * denominator) + denominator) :
    roundDiv numerator denominator = n := by
  have positive : 0 < denominator := by omega
  have parts := Nat.div_add_mod' numerator denominator
  have rest := Nat.mod_lt numerator positive
  have upper : numerator / denominator < n + 1 := by
    rw [Nat.div_lt_iff_lt_mul positive, Nat.succ_mul]
    omega
  have lower : n < numerator / denominator + 2 := by
    have passed : n * denominator < (numerator / denominator + 2) * denominator := by
      rw [Nat.add_mul]
      omega
    exact Nat.lt_of_mul_lt_mul_right passed
  unfold roundDiv
  dsimp only
  obtain same | less : numerator / denominator = n ∨ numerator / denominator + 1 = n := by omega
  · rw [same] at parts ⊢
    rw [if_pos (by omega)]
  · have whole : n * denominator = numerator / denominator * denominator + denominator := by
      rw [← less, Nat.succ_mul]
    rw [if_neg (by omega), if_pos (by omega), less]

variable (numerator) in
/-- A rounded quotient is at most a half away. -/
theorem roundDiv_near (positive : 0 < denominator) :
    2 * (roundDiv numerator denominator * denominator) ≤ 2 * numerator + denominator ∧
      2 * numerator ≤ 2 * (roundDiv numerator denominator * denominator) + denominator := by
  have parts := Nat.div_add_mod' numerator denominator
  have rest := Nat.mod_lt numerator positive
  have next : (numerator / denominator + 1) * denominator =
      numerator / denominator * denominator + denominator := Nat.succ_mul _ _
  unfold roundDiv
  dsimp only
  split_ifs <;> omega

theorem roundDiv_scale {factor : Nat} (positive : 0 < factor) :
    roundDiv (factor * numerator) (factor * denominator) = roundDiv numerator denominator := by
  have twice : 2 * (factor * (numerator % denominator)) =
      factor * (2 * (numerator % denominator)) := Nat.mul_left_comm _ _ _
  unfold roundDiv
  dsimp only
  rw [Nat.mul_div_mul_left _ _ positive, Nat.mul_mod_mul_left, twice]
  simp only [Nat.mul_lt_mul_left positive]

/-- Rounding depends on the quotient alone. -/
theorem nearest_scale (negative : Bool) {factor : Nat} (positive : 0 < factor) :
    nearest negative (factor * numerator) (factor * denominator) =
      nearest negative numerator denominator := by
  unfold nearest
  rw [Nat.mul_div_mul_left _ _ positive]
  dsimp only
  rw [Nat.mul_assoc, roundDiv_scale positive]

end

/-! ## Near a value -/

namespace Finite

/-- The magnitude as a number of units. -/
def magnitude (x : Finite) : Nat :=
  x.significand * 2 ^ x.exponent

theorem natAbs_units (x : Finite) : x.units.natAbs = x.magnitude := by
  unfold units
  dsimp only
  split
  · exact Int.natAbs_neg _
  · rfl

/-- How far from the magnitude the quotients reach that are rounded to it, in quarters of a unit of
the last place.  At a power of two only those above it reach half a unit. -/
def margin (x : Finite) : Nat :=
  if x.significand ≤ 2 ^ 52 then 1 else 2

/-- A quotient near enough to a value to be rounded to it. -/
structure Near (x : Finite) (numerator denominator : Nat) : Prop where
  positive : 0 < denominator
  above : 4 * (x.magnitude * denominator) <
    4 * numerator + x.margin * (2 ^ x.exponent * denominator)
  below : 4 * numerator <
    4 * (x.magnitude * denominator) + x.margin * (2 ^ x.exponent * denominator)

theorem make_fields (x : Finite) : make x.negative x.significand x.exponent = .finite x := by
  unfold make
  rw [dif_pos ⟨x.significand_lt, x.normal, x.exponent_le⟩]

namespace Near

variable {x : Finite} {numerator denominator : Nat}

theorem margin_le (x : Finite) : x.margin ≤ 2 := by
  unfold margin
  split <;> decide

/-- The quotient in units of the last place is less than a half from the significand. -/
theorem roundDiv_eq (near : x.Near numerator denominator) :
    roundDiv numerator (denominator * 2 ^ x.exponent) = x.significand := by
  have margin := Nat.mul_le_mul_right (2 ^ x.exponent * denominator) (margin_le x)
  have above := near.above
  have below := near.below
  have product : x.magnitude * denominator =
      x.significand * (denominator * 2 ^ x.exponent) := by
    unfold magnitude
    ring
  rw [product, Nat.mul_comm (2 ^ _) denominator] at above below
  rw [Nat.mul_comm (2 ^ _) denominator] at margin
  apply Binary64.roundDiv_eq <;> omega

theorem log2_div {power : Nat} (positive : 0 < denominator)
    (least : 2 ^ power * denominator ≤ numerator)
    (most : numerator < 2 ^ (power + 1) * denominator) :
    (numerator / denominator).log2 = power := by
  have lower : 2 ^ power ≤ numerator / denominator := (Nat.le_div_iff_mul_le positive).mpr least
  have upper : numerator / denominator < 2 ^ (power + 1) :=
    (Nat.div_lt_iff_lt_mul positive).mpr most
  have filled : numerator / denominator ≠ 0 := by
    have := Nat.two_pow_pos power
    omega
  exact (Nat.log2_eq_iff filled).mpr ⟨lower, upper⟩

/-- With the shift known, the significand is what the quotient rounds to. -/
theorem nearest_of_shift (near : x.Near numerator denominator)
    (shift : (numerator / denominator).log2 + 1 - 53 = x.exponent) :
    nearest x.negative numerator denominator = .finite x := by
  unfold nearest
  dsimp only
  rw [shift]
  change (if roundDiv numerator (denominator * 2 ^ x.exponent) < _ then
    make _ (roundDiv numerator (denominator * 2 ^ x.exponent)) _ else _) = _
  rw [near.roundDiv_eq, if_pos x.significand_lt, make_fields]

/-- Below a power of two the quotient is rounded on the finer grid, and up to its end. -/
theorem nearest_of_carry {finer : Nat} (power : x.significand = 2 ^ 52)
    (exponent : x.exponent = finer + 1) (near : x.Near numerator denominator)
    (less : numerator < 2 ^ 52 * 2 ^ x.exponent * denominator) :
    nearest x.negative numerator denominator = .finite x := by
  have above := near.above
  have margin : x.margin = 1 := if_pos power.le
  have unit : 2 ^ x.exponent * denominator = 2 * (denominator * 2 ^ finer) := by
    rw [exponent, Nat.pow_succ]
    ring
  rw [magnitude, power, margin, Nat.mul_assoc, unit] at above
  rw [Nat.mul_assoc, unit] at less
  have shift : (numerator / denominator).log2 + 1 - 53 = finer := by
    have least : 2 ^ (52 + finer) * denominator ≤ numerator := by
      rw [Nat.pow_add, Nat.mul_assoc, Nat.mul_comm _ denominator]
      omega
    have most : numerator < 2 ^ (52 + finer + 1) * denominator := by
      have double : 2 ^ (52 + finer + 1) * denominator = 2 ^ 53 * (denominator * 2 ^ finer) := by
        ring
      rw [double]
      omega
    rw [log2_div near.positive least most]
    omega
  have rounded : roundDiv numerator (denominator * 2 ^ finer) = 2 ^ 53 := by
    apply Binary64.roundDiv_eq <;> omega
  unfold nearest
  dsimp only
  rw [shift]
  change (if roundDiv numerator (denominator * 2 ^ finer) < _ then _ else _) = _
  rw [rounded, if_neg (by decide), ← exponent, ← make_fields, power]
  rfl

/-- A quotient near to a value is rounded to it. -/
theorem nearest_eq (near : x.Near numerator denominator) :
    nearest x.negative numerator denominator = .finite x := by
  have significand := x.significand_lt
  have positive := near.positive
  have above := near.above
  have below := near.below
  have margin := Nat.mul_le_mul_right (2 ^ x.exponent * denominator) (margin_le x)
  have product : x.magnitude * denominator = x.significand * (2 ^ x.exponent * denominator) :=
    Nat.mul_assoc _ _ _
  have most : x.significand * (2 ^ x.exponent * denominator) ≤
      (2 ^ 53 - 1) * (2 ^ x.exponent * denominator) :=
    Nat.mul_le_mul_right _ (Nat.le_sub_one_of_lt significand)
  have short : numerator < 2 ^ (53 + x.exponent) * denominator := by
    rw [Nat.pow_add, Nat.mul_assoc]
    omega
  rcases Nat.eq_zero_or_pos x.exponent with least | high
  · refine near.nearest_of_shift ?_
    rw [least, Nat.add_zero, ← Nat.div_lt_iff_lt_mul positive] at short
    rcases Nat.eq_zero_or_pos (numerator / denominator) with empty | filled
    · rw [empty, least]
      rfl
    · have := (Nat.log2_lt filled.ne').mpr short
      omega
  have normal : 2 ^ 52 ≤ x.significand := x.normal.resolve_left high.ne'
  rcases Nat.lt_or_ge numerator (2 ^ 52 * 2 ^ x.exponent * denominator) with less | enough
  · have power : x.significand = 2 ^ 52 := by
      have units : 0 < 2 ^ x.exponent * denominator := Nat.mul_pos (Nat.two_pow_pos _) positive
      have few : x.significand * (2 ^ x.exponent * denominator) <
          (2 ^ 52 + 1) * (2 ^ x.exponent * denominator) := by
        rw [Nat.mul_assoc] at less
        omega
      have := Nat.lt_of_mul_lt_mul_right few
      omega
    exact near.nearest_of_carry power (Nat.succ_pred_eq_of_pos high).symm less
  · refine near.nearest_of_shift ?_
    rw [← Nat.pow_add] at enough
    rw [log2_div positive enough (by rwa [Nat.add_right_comm])]
    omega

end Near

end Finite

end Binary64

end HomeConfig
