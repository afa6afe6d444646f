import Mathlib.Data.Rat.Floor
import Mathlib.Algebra.Order.Floor.Ring
import Mathlib.Tactic.Linarith
import Mathlib.Tactic.Positivity
import Mathlib.Tactic.FieldSimp
import Mathlib.Tactic.Ring
import Mathlib.Tactic.NormNum

/-!
# Decimal rounding of rationals, halves away from zero

`roundHalfAway digits value` keeps `digits` decimals of `value` and rounds
the rest to the nearest neighbour, a half away from zero.  It is monotone
and fixes every value on its grid.  A value up to one grid point therefore
stays up to that point.
-/

namespace SultanPass.Library.Rounding

/-- Nearest multiple of `10 ^ (-digits)`, a half going up. -/
def roundHalfUp (digits : ℕ) (value : ℚ) : ℚ :=
  (⌊value * 10 ^ digits + 1 / 2⌋ : ℚ) / 10 ^ digits

/-- Nearest multiple of `10 ^ (-digits)`, a half going away from zero. -/
def roundHalfAway (digits : ℕ) (value : ℚ) : ℚ :=
  if 0 ≤ value then roundHalfUp digits value
  else -roundHalfUp digits (-value)

theorem roundHalfUp_mono
    (digits : ℕ) :
    Monotone (roundHalfUp digits) := by
  intro left right ordered
  have scaled :
      left * 10 ^ digits + 1 / 2 ≤ right * 10 ^ digits + 1 / 2 := by
    have positive : (0 : ℚ) ≤ 10 ^ digits := by positivity
    linarith [mul_le_mul_of_nonneg_right ordered positive]
  have floors := Int.floor_le_floor scaled
  unfold roundHalfUp
  gcongr

theorem roundHalfUp_nonneg
    (digits : ℕ) {value : ℚ} (nonneg : 0 ≤ value) :
    0 ≤ roundHalfUp digits value := by
  have floorNonneg :
      (0 : ℤ) ≤ ⌊value * 10 ^ digits + 1 / 2⌋ :=
    Int.floor_nonneg.mpr (by positivity)
  have castNonneg :
      (0 : ℚ) ≤ (⌊value * 10 ^ digits + 1 / 2⌋ : ℚ) := by
    exact_mod_cast floorNonneg
  unfold roundHalfUp
  positivity

/-- Rounding to a fixed number of decimals preserves the order. -/
theorem roundHalfAway_mono
    (digits : ℕ) :
    Monotone (roundHalfAway digits) := by
  intro left right ordered
  by_cases leftNonneg : 0 ≤ left
  · have rightNonneg : 0 ≤ right := leftNonneg.trans ordered
    simp only [roundHalfAway, leftNonneg, rightNonneg, if_true]
    exact roundHalfUp_mono digits ordered
  · have leftOpposite :
        0 ≤ roundHalfUp digits (-left) :=
      roundHalfUp_nonneg digits (by linarith)
    by_cases rightNonneg : 0 ≤ right
    · have rightRounded := roundHalfUp_nonneg digits rightNonneg
      simp only [roundHalfAway, leftNonneg, rightNonneg,
        if_true, if_false]
      linarith
    · have opposite :=
        roundHalfUp_mono digits (neg_le_neg ordered)
      simp only [roundHalfAway, leftNonneg, rightNonneg, if_false]
      linarith

/-- A natural number is a grid point of every decimal rounding. -/
@[simp]
theorem roundHalfAway_natCast
    (digits number : ℕ) :
    roundHalfAway digits (number : ℚ) = number := by
  have positive : (0 : ℚ) < 10 ^ digits := by positivity
  have grid :
      (number : ℚ) * 10 ^ digits =
        ((number * 10 ^ digits : ℕ) : ℚ) := by
    push_cast
    ring
  have floorEqual :
      ⌊(number : ℚ) * 10 ^ digits + 1 / 2⌋ =
        ((number * 10 ^ digits : ℕ) : ℤ) := by
    rw [grid, Int.floor_eq_iff]
    constructor
    · push_cast
      linarith
    · push_cast
      linarith
  rw [roundHalfAway, if_pos (Nat.cast_nonneg number),
    roundHalfUp, floorEqual]
  push_cast
  field_simp

theorem roundHalfAway_le_natCast
    (digits number : ℕ) {value : ℚ} (bound : value ≤ number) :
    roundHalfAway digits value ≤ number := by
  calc
    roundHalfAway digits value ≤
        roundHalfAway digits (number : ℚ) :=
      roundHalfAway_mono digits bound
    _ = number := roundHalfAway_natCast digits number

/--
A nonnegative value is rounded up to at least a grid point exactly when it
misses the point by at most half a grid step.
-/
theorem natCast_le_roundHalfAway_iff
    (digits number : ℕ) {value : ℚ} (nonneg : 0 ≤ value) :
    (number : ℚ) ≤ roundHalfAway digits value ↔
      (number : ℚ) - 1 / (2 * 10 ^ digits) ≤ value := by
  have positive : (0 : ℚ) < 10 ^ digits := by positivity
  have grid :
      (number : ℚ) ≤ roundHalfAway digits value ↔
        ((number * 10 ^ digits : ℕ) : ℤ) ≤
          ⌊value * 10 ^ digits + 1 / 2⌋ := by
    rw [roundHalfAway, if_pos nonneg, roundHalfUp,
      le_div_iff₀ positive]
    constructor
    · intro ordered
      exact_mod_cast ordered
    · intro ordered
      exact_mod_cast ordered
  rw [grid, Int.le_floor]
  push_cast
  have halfStep :
      (number : ℚ) - 1 / (2 * 10 ^ digits) =
        (number * 10 ^ digits - 1 / 2) / 10 ^ digits := by
    field_simp
  rw [halfStep, div_le_iff₀ positive]
  constructor <;> intro ordered <;> linarith

/-! ## Cells -/

/-- The number of grid steps that a value is rounded to. -/
def gridSteps (digits : ℕ) (value : ℚ) : ℤ :=
  if 0 ≤ value then ⌊value * 10 ^ digits + 1 / 2⌋
  else -⌊-value * 10 ^ digits + 1 / 2⌋

theorem roundHalfAway_eq_gridSteps
    (digits : ℕ) (value : ℚ) :
    roundHalfAway digits value =
      (gridSteps digits value : ℚ) / 10 ^ digits := by
  rw [roundHalfAway, gridSteps, roundHalfUp, roundHalfUp]
  split_ifs with nonneg
  · rfl
  · push_cast
    ring

/-- The middle between two neighbouring grid points above zero. -/
def halfStep (digits steps : ℕ) : ℚ :=
  (2 * steps + 1) / (2 * 10 ^ digits)

theorem lt_gridSteps_iff
    (digits steps : ℕ) (value : ℚ) :
    (steps : ℤ) < gridSteps digits value ↔
      halfStep digits steps ≤ value := by
  have positive : (0 : ℚ) < 10 ^ digits := by positivity
  have stepPositive : 0 < halfStep digits steps := by
    rw [halfStep]
    positivity
  by_cases nonneg : 0 ≤ value
  · rw [gridSteps, if_pos nonneg, ← Int.add_one_le_iff, Int.le_floor,
      halfStep, div_le_iff₀ (by positivity)]
    push_cast
    constructor <;> intro ordered <;> linarith
  · have below : value < 0 := not_le.mp nonneg
    have floorNonneg :
        (0 : ℤ) ≤ ⌊-value * 10 ^ digits + 1 / 2⌋ :=
      Int.floor_nonneg.mpr
        (add_nonneg
          (mul_nonneg (neg_nonneg.mpr below.le) positive.le)
          (by norm_num))
    rw [gridSteps, if_neg nonneg]
    constructor
    · intro ordered
      omega
    · intro ordered
      linarith

theorem gridSteps_neg
    (digits : ℕ) (value : ℚ) :
    gridSteps digits (-value) = -gridSteps digits value := by
  rcases lt_trichotomy value 0 with below | rfl | above
  · rw [gridSteps, gridSteps, if_pos (by linarith),
      if_neg (not_le.mpr below), neg_neg]
  · norm_num [gridSteps]
  · rw [gridSteps, gridSteps, if_neg (by linarith), if_pos above.le,
      neg_neg]

/-- A rounding stays up to a natural number below the next half step. -/
theorem roundHalfAway_le_natCast_iff
    (digits number : ℕ) (value : ℚ) :
    roundHalfAway digits value ≤ number ↔
      value < halfStep digits (number * 10 ^ digits) := by
  have positive : (0 : ℚ) < 10 ^ digits := by positivity
  rw [roundHalfAway_eq_gridSteps, div_le_iff₀ positive, ← not_le,
    ← lt_gridSteps_iff, not_lt]
  exact_mod_cast Iff.rfl

/-- Rounding before or after a cut at natural numbers is the same. -/
theorem clamp_roundHalfAway
    (digits lowest highest : ℕ) (value : ℚ) :
    min (highest : ℚ) (max lowest (roundHalfAway digits value)) =
      roundHalfAway digits (min (highest : ℚ) (max lowest value)) := by
  rw [(roundHalfAway_mono digits).map_min,
    (roundHalfAway_mono digits).map_max, roundHalfAway_natCast,
    roundHalfAway_natCast]

/-- A rounding stays from 0 on above the first half step below 0. -/
theorem roundHalfAway_nonneg_iff
    (digits : ℕ) (value : ℚ) :
    0 ≤ roundHalfAway digits value ↔ -halfStep digits 0 < value := by
  have positive : (0 : ℚ) < 10 ^ digits := by positivity
  have below := lt_gridSteps_iff digits 0 (-value)
  rw [gridSteps_neg, Nat.cast_zero, neg_pos] at below
  rw [roundHalfAway_eq_gridSteps, le_div_iff₀ positive, zero_mul,
    Int.cast_nonneg_iff, ← not_lt, below, not_le, neg_lt]

/-- Values that are a grid step apart have different roundings. -/
theorem roundHalfAway_lt_of_add_le
    (digits : ℕ) {left right : ℚ} (nonneg : 0 ≤ left)
    (apart : left + 1 / 10 ^ digits ≤ right) :
    roundHalfAway digits left < roundHalfAway digits right := by
  have positive : (0 : ℚ) < 10 ^ digits := by positivity
  have step : (0 : ℚ) < 1 / 10 ^ digits := by positivity
  have scaled :
      left * 10 ^ digits + 1 / 2 + 1 ≤ right * 10 ^ digits + 1 / 2 := by
    have multiplied := mul_le_mul_of_nonneg_right apart positive.le
    rw [add_mul, div_mul_cancel₀ _ positive.ne'] at multiplied
    linarith
  have floors := Int.floor_le_floor scaled
  rw [Int.floor_add_one] at floors
  rw [roundHalfAway, roundHalfAway, if_pos nonneg,
    if_pos (by linarith), roundHalfUp, roundHalfUp,
    div_lt_div_iff_of_pos_right positive, Int.cast_lt]
  exact Int.lt_iff_add_one_le.mpr floors

end SultanPass.Library.Rounding
