import Caraka.Foundation.Rounding

/-! A duration in seconds as the standard library reads it into single precision, and the
saturating cast back to a word. -/

namespace Foundation

def subsecNanos (elapsed : ℚ) : ℤ := ⌊(elapsed - ⌊elapsed⌋) * 10 ^ 9⌋

/-- `Duration::as_secs_f32`. -/
def asSecsF32 (elapsed : ℚ) : ℚ :=
  binary32.round
    (binary32.round ⌊elapsed⌋ + binary32.round (binary32.round (subsecNanos elapsed) / 10 ^ 9))

/-- `value as u32`: the whole part, saturating. -/
def floorU32 (value : ℚ) : UInt32 := UInt32.ofNat (min value.floor.toNat (UInt32.size - 1))

theorem toNat_saturated (value : Nat) :
    (UInt32.ofNat (min value (UInt32.size - 1))).toNat = min value (UInt32.size - 1) := by
  apply UInt32.toNat_ofNat_of_lt'
  exact Nat.lt_of_le_of_lt (Nat.min_le_right ..) (Nat.sub_one_lt (by decide))

theorem floor_toNat_bounds {value : ℚ} (positive : 0 ≤ value) :
    (value.floor.toNat : ℚ) ≤ value ∧ value < value.floor.toNat + 1 := by
  have floor : value.floor.toNat = ⌊value⌋₊ := Int.floor_toNat value
  rw [floor]
  exact ⟨Nat.floor_le positive, Nat.lt_floor_add_one value⟩

def wholeNanos (elapsed : ℚ) : ℚ := ⌊elapsed⌋ + subsecNanos elapsed / 10 ^ 9

theorem subsecNanos_nonneg (elapsed : ℚ) : 0 ≤ subsecNanos elapsed := by
  apply Int.floor_nonneg.mpr
  exact mul_nonneg (sub_nonneg.mpr (Int.floor_le elapsed)) (by norm_num)

theorem wholeNanos_le (elapsed : ℚ) : wholeNanos elapsed ≤ elapsed := by
  have nanos := Int.floor_le ((elapsed - ⌊elapsed⌋) * 10 ^ 9)
  have fraction : (subsecNanos elapsed : ℚ) / 10 ^ 9 ≤ elapsed - ⌊elapsed⌋ :=
    (div_le_iff₀ (by norm_num)).mpr nanos
  rw [wholeNanos]
  linarith

theorem lt_wholeNanos (elapsed : ℚ) : elapsed - 1 / 10 ^ 9 < wholeNanos elapsed := by
  have nanos := Int.lt_floor_add_one ((elapsed - ⌊elapsed⌋) * 10 ^ 9)
  have fraction : elapsed - ⌊elapsed⌋ < ((subsecNanos elapsed : ℚ) + 1) / 10 ^ 9 :=
    (lt_div_iff₀ (by norm_num)).mpr nanos
  rw [add_div] at fraction
  rw [wholeNanos]
  linarith

theorem far_of_nanos {value : ℚ} (nanos : 1 / 10 ^ 9 ≤ value) :
    2 ^ binary32.least * 2 ≤ value :=
  le_trans (by norm_num [binary32]) nanos

theorem far_of_int {number : ℤ} (positive : 0 ≤ number) :
    (number : ℚ) = 0 ∨ 2 ^ binary32.least * 2 ≤ (number : ℚ) := by
  rcases positive.eq_or_lt with zero | one
  · exact .inl (by rw [← zero, Int.cast_zero])
  · right
    have one : (1 : ℚ) ≤ number := by exact_mod_cast one
    exact far_of_nanos (le_trans (by norm_num) one)

theorem few_binary32 {steps : ℕ} (few : steps ≤ 4) :
    (1 / 2 : ℚ) ≤ (1 - binary32.unit) ^ steps :=
  le_trans (by norm_num) (binary32_pow_four few).1

theorem within_round_int {number : ℤ} (positive : 0 ≤ number) :
    binary32.Within 1 number (binary32.round number) := by
  have exactly := @BinaryFormat.Within.refl binary32 number
  exact exactly.round (exactly.normal (far_of_int positive) (few_binary32 (by decide)))

theorem within_nanos (elapsed : ℚ) :
    binary32.Within 2 (subsecNanos elapsed / 10 ^ 9)
      (binary32.round (binary32.round (subsecNanos elapsed) / 10 ^ 9)) := by
  have positive := subsecNanos_nonneg elapsed
  have scaled := (within_round_int positive).mul (show (0 : ℚ) ≤ 1 / 10 ^ 9 by norm_num)
  rw [mul_one_div, mul_one_div] at scaled
  apply scaled.round
  apply scaled.normal ?_ (few_binary32 (by decide))
  rcases positive.eq_or_lt with zero | one
  · exact .inl (by rw [← zero, Int.cast_zero, zero_div])
  · right
    apply far_of_nanos
    have one : (1 : ℚ) ≤ subsecNanos elapsed := by exact_mod_cast one
    gcongr

theorem wholeNanos_cases {elapsed : ℚ} (positive : 0 ≤ elapsed) :
    wholeNanos elapsed = 0 ∨ 1 / 10 ^ 9 ≤ wholeNanos elapsed := by
  have seconds : 0 ≤ ⌊elapsed⌋ := Int.floor_nonneg.mpr positive
  have nanos := subsecNanos_nonneg elapsed
  have whole : wholeNanos elapsed = ((⌊elapsed⌋ * 10 ^ 9 + subsecNanos elapsed : ℤ) : ℚ) / 10 ^ 9 := by
    rw [wholeNanos]
    push_cast
    ring
  rw [whole]
  rcases (add_nonneg (mul_nonneg seconds (by norm_num)) nanos :
      0 ≤ ⌊elapsed⌋ * 10 ^ 9 + subsecNanos elapsed).eq_or_lt with zero | one
  · exact .inl (by rw [← zero, Int.cast_zero, zero_div])
  · right
    have one : (1 : ℚ) ≤ (⌊elapsed⌋ * 10 ^ 9 + subsecNanos elapsed : ℤ) := by exact_mod_cast one
    gcongr

theorem within_asSecsF32 {elapsed : ℚ} (positive : 0 ≤ elapsed) :
    binary32.Within 3 (wholeNanos elapsed) (asSecsF32 elapsed) := by
  have seconds : 0 ≤ ⌊elapsed⌋ := Int.floor_nonneg.mpr positive
  have whole := (within_round_int seconds).succ (Int.cast_nonneg seconds)
  have summed := whole.add (within_nanos elapsed)
  apply summed.round
  apply summed.normal ?_ (few_binary32 (by decide))
  exact (wholeNanos_cases positive).imp_right far_of_nanos

theorem within_asSecsF32_mul {elapsed : ℚ} (positive : 0 ≤ elapsed) {factor : Nat}
    (some : 0 < factor) :
    binary32.Within 4 (wholeNanos elapsed * factor)
      (binary32.round (asSecsF32 elapsed * factor)) := by
  have scaled := (within_asSecsF32 positive).mul (Nat.cast_nonneg factor)
  apply scaled.round
  apply scaled.normal ?_ (few_binary32 (by decide))
  rcases wholeNanos_cases positive with zero | nanos
  · exact .inl (by rw [zero, zero_mul])
  · right
    apply far_of_nanos
    have one : (1 : ℚ) ≤ factor := by exact_mod_cast some
    calc (1 / 10 ^ 9 : ℚ) ≤ wholeNanos elapsed := nanos
      _ ≤ wholeNanos elapsed * factor :=
          le_mul_of_one_le_right (le_trans (by norm_num) nanos) one

end Foundation
