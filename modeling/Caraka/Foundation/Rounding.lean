import Mathlib.Data.Int.Log
import Mathlib.Data.Rat.Floor
import Mathlib.Tactic.IntervalCases
import Mathlib.Tactic.Linarith
import Mathlib.Tactic.NormNum
import Mathlib.Tactic.Positivity
import Mathlib.Tactic.Ring

/-! Binary floating point by the rationals its numbers stand for: rounding to the nearest number
of a format, ties to even, and the relative error of it. -/

namespace Foundation

def roundEven (x : ℚ) : ℤ :=
  if x - ⌊x⌋ < 1 / 2 ∨ x - ⌊x⌋ = 1 / 2 ∧ ⌊x⌋ % 2 = 0 then ⌊x⌋ else ⌊x⌋ + 1

theorem abs_roundEven_sub_le (x : ℚ) : |roundEven x - x| ≤ 1 / 2 := by
  have below := Int.floor_le x
  have above := Int.lt_floor_add_one x
  rw [abs_le, roundEven]
  split_ifs with down
  · have half : x - ⌊x⌋ ≤ 1 / 2 := down.elim le_of_lt fun tie => tie.1.le
    constructor <;> linarith
  · have half : 1 / 2 ≤ x - ⌊x⌋ := not_lt.mp fun less => down (.inl less)
    rw [Int.cast_add, Int.cast_one]
    constructor <;> linarith

theorem roundEven_zero : roundEven 0 = 0 := by
  decide +kernel

/-- A format with so many binary digits, the least normal number being `2 ^ least`. The largest
number is left out: nothing here comes near it. -/
structure BinaryFormat where
  precision : ℕ
  least : ℤ

namespace BinaryFormat

variable (format : BinaryFormat)

/-- The distance of two neighbours at `x`. -/
def ulp (x : ℚ) : ℚ := 2 ^ (max (Int.log 2 x) format.least + 1 - format.precision)

def round (x : ℚ) : ℚ := roundEven (x / format.ulp x) * format.ulp x

def Normal (x : ℚ) : Prop := x = 0 ∨ 2 ^ format.least ≤ x

def unit : ℚ := 2 ^ (-(format.precision : ℤ))

theorem ulp_pos (x : ℚ) : 0 < format.ulp x := zpow_pos zero_lt_two _

theorem unit_pos : 0 < format.unit := zpow_pos zero_lt_two _

theorem abs_round_sub_le (x : ℚ) : |format.round x - x| ≤ format.ulp x / 2 := by
  have positive := format.ulp_pos x
  have scaled : format.round x - x =
      (roundEven (x / format.ulp x) - x / format.ulp x) * format.ulp x := by
    rw [sub_mul, div_mul_cancel₀ x positive.ne', round]
  calc |format.round x - x|
      = |(roundEven (x / format.ulp x) - x / format.ulp x : ℚ)| * format.ulp x := by
        rw [scaled, abs_mul, abs_of_pos positive]
    _ ≤ 1 / 2 * format.ulp x :=
        mul_le_mul_of_nonneg_right (abs_roundEven_sub_le _) positive.le
    _ = format.ulp x / 2 := by ring

theorem round_zero : format.round 0 = 0 := by
  rw [round, zero_div, roundEven_zero, Int.cast_zero, zero_mul]

theorem ulp_le {x : ℚ} (large : 2 ^ format.least ≤ x) : format.ulp x / 2 ≤ x * format.unit := by
  have positive : 0 < x := (zpow_pos zero_lt_two _).trans_le large
  have exponent : format.least ≤ Int.log 2 x := (Int.zpow_le_iff_le_log one_lt_two positive).mp large
  have leading : (2 : ℚ) ^ Int.log 2 x ≤ x := Int.zpow_log_le_self one_lt_two positive
  calc format.ulp x / 2
      = 2 ^ Int.log 2 x * format.unit := by
        rw [ulp, unit, max_eq_left exponent, sub_eq_add_neg, zpow_add₀ two_ne_zero,
          zpow_add_one₀ two_ne_zero]
        ring
    _ ≤ x * format.unit := mul_le_mul_of_nonneg_right leading format.unit_pos.le

theorem abs_round_sub_le_mul {x : ℚ} (normal : format.Normal x) :
    |format.round x - x| ≤ x * format.unit := by
  rcases normal with rfl | large
  · rw [format.round_zero, sub_zero, abs_zero, zero_mul]
  · exact (format.abs_round_sub_le x).trans (format.ulp_le large)

theorem round_le {x : ℚ} (normal : format.Normal x) : format.round x ≤ x * (1 + format.unit) := by
  have close := (abs_le.mp (format.abs_round_sub_le_mul normal)).2
  linarith

theorem le_round {x : ℚ} (normal : format.Normal x) : x * (1 - format.unit) ≤ format.round x := by
  have close := (abs_le.mp (format.abs_round_sub_le_mul normal)).1
  linarith

structure Within (steps : ℕ) (exact value : ℚ) : Prop where
  lower : exact * (1 - format.unit) ^ steps ≤ value
  upper : value ≤ exact * (1 + format.unit) ^ steps

theorem unit_le_one : format.unit ≤ 1 := by
  rw [unit, zpow_neg, zpow_natCast]
  exact inv_le_one_of_one_le₀ (one_le_pow₀ one_le_two)

namespace Within

variable {format} {steps : ℕ} {exact value : ℚ}

theorem refl (exact : ℚ) : format.Within 0 exact exact := by
  constructor <;> simp

theorem round (within : format.Within steps exact value) (normal : format.Normal value) :
    format.Within (steps + 1) exact (format.round value) := by
  have below : (0 : ℚ) ≤ 1 - format.unit := sub_nonneg.mpr format.unit_le_one
  have above : (0 : ℚ) ≤ 1 + format.unit := add_nonneg zero_le_one format.unit_pos.le
  constructor
  · calc exact * (1 - format.unit) ^ (steps + 1)
        = exact * (1 - format.unit) ^ steps * (1 - format.unit) := by ring
      _ ≤ value * (1 - format.unit) := mul_le_mul_of_nonneg_right within.lower below
      _ ≤ format.round value := format.le_round normal
  · calc format.round value
        ≤ value * (1 + format.unit) := format.round_le normal
      _ ≤ exact * (1 + format.unit) ^ steps * (1 + format.unit) :=
          mul_le_mul_of_nonneg_right within.upper above
      _ = exact * (1 + format.unit) ^ (steps + 1) := by ring

theorem add {exact' value' : ℚ} (within : format.Within steps exact value)
    (within' : format.Within steps exact' value') :
    format.Within steps (exact + exact') (value + value') := by
  constructor
  · rw [add_mul]
    exact add_le_add within.lower within'.lower
  · rw [add_mul]
    exact add_le_add within.upper within'.upper

theorem mul {factor : ℚ} (positive : 0 ≤ factor) (within : format.Within steps exact value) :
    format.Within steps (exact * factor) (value * factor) := by
  constructor
  · rw [mul_right_comm]
    exact mul_le_mul_of_nonneg_right within.lower positive
  · rw [mul_right_comm]
    exact mul_le_mul_of_nonneg_right within.upper positive

theorem succ (positive : 0 ≤ exact) (within : format.Within steps exact value) :
    format.Within (steps + 1) exact value := by
  have below : (0 : ℚ) ≤ 1 - format.unit := sub_nonneg.mpr format.unit_le_one
  have smaller : 1 - format.unit ≤ 1 := sub_le_self 1 format.unit_pos.le
  have larger : 1 ≤ 1 + format.unit := le_add_of_nonneg_right format.unit_pos.le
  constructor
  · refine le_trans ?_ within.lower
    rw [pow_succ]
    exact mul_le_mul_of_nonneg_left (mul_le_of_le_one_right (pow_nonneg below _) smaller) positive
  · refine within.upper.trans ?_
    rw [pow_succ]
    exact mul_le_mul_of_nonneg_left
      (le_mul_of_one_le_right (pow_nonneg (zero_le_one.trans larger) _) larger) positive

theorem normal (within : format.Within steps exact value)
    (far : exact = 0 ∨ 2 ^ format.least * 2 ≤ exact) (few : 1 / 2 ≤ (1 - format.unit) ^ steps) :
    format.Normal value := by
  rcases far with rfl | far
  · left
    have lower := within.lower
    have upper := within.upper
    rw [zero_mul] at lower upper
    exact le_antisymm upper lower
  · right
    have least : (0 : ℚ) < 2 ^ format.least := zpow_pos zero_lt_two _
    have positive : 0 ≤ exact := (mul_pos least zero_lt_two).le.trans far
    calc (2 : ℚ) ^ format.least
        = 2 ^ format.least * 2 * (1 / 2) := by ring
      _ ≤ exact * (1 - format.unit) ^ steps := by gcongr
      _ ≤ value := within.lower

end Within

end BinaryFormat

def binary32 : BinaryFormat := ⟨24, -126⟩

theorem binary32_pow_four {steps : ℕ} (few : steps ≤ 4) :
    1 - 1 / 2 ^ 20 ≤ (1 - binary32.unit) ^ steps ∧
      (1 + binary32.unit) ^ steps ≤ (1 + 1 / 2 ^ 20 : ℚ) := by
  interval_cases steps <;> norm_num [BinaryFormat.unit, binary32]

end Foundation
