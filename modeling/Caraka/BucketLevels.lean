import Caraka.Routing
import Mathlib.Tactic.Linarith

/-! The tokens of a bucket together with those that time has earned and no call has credited yet,
for any reckoning of the tokens an elapsed time is worth. -/

namespace Caraka

open Foundation

/-- A reckoning that pays out at most `rate` tokens a second and nothing only where little more than
one is due, as far as `cap` exceeds the burst. -/
structure Credits (credit : ℚ → Nat) (cap rate : ℚ) : Prop where
  burst_le : rateBurst ≤ cap
  rate_nonneg : 0 ≤ rate
  credit_le : ∀ elapsed, 0 ≤ elapsed → (credit elapsed : ℚ) ≤ rate * elapsed
  unpaid_le : ∀ elapsed, 0 ≤ elapsed → credit elapsed = 0 →
    rate * elapsed ≤ 1 + (cap - rateBurst)

namespace TokenBucket

theorem elapsed_nonneg (bucket : TokenBucket) (now : ℚ) : 0 ≤ bucket.elapsed now :=
  le_max_right ..

theorem elapsed_le (bucket : TokenBucket) {now later : ℚ} (ordered : now ≤ later) :
    bucket.elapsed later ≤ bucket.elapsed now + (later - now) := by
  apply max_le
  · have reached := le_max_left (now - bucket.lastRefill) 0
    rw [elapsed]
    linarith
  · have positive := bucket.elapsed_nonneg now
    linarith

theorem elapsed_self {bucket : TokenBucket} {now : ℚ} (reset : bucket.lastRefill = now) :
    bucket.elapsed now = 0 := by
  rw [elapsed, reset, sub_self, max_self]

def level (cap rate : ℚ) (bucket : TokenBucket) (now : ℚ) : ℚ :=
  min cap (bucket.tokens + rate * bucket.elapsed now)

/-- A bucket as the router keeps it between two packets, or as it makes it for a first one. -/
def Kept (bucket : TokenBucket) (now : ℚ) : Prop :=
  bucket.tokens < rateBurst ∨ bucket = TokenBucket.new now

theorem kept_getD {entry : Option TokenBucket} (drawn : ∀ bucket ∈ entry, bucket.tokens < rateBurst)
    (now : ℚ) : (entry.getD (TokenBucket.new now)).Kept now := by
  cases entry with
  | none => exact .inr rfl
  | some bucket => exact .inl (drawn bucket rfl)

section Levels

variable {credit : ℚ → Nat} {cap rate : ℚ} (bucket : TokenBucket)

theorem level_le (now : ℚ) : bucket.level cap rate now ≤ cap := min_le_left ..

theorem level_nonneg (credits : Credits credit cap rate) (now : ℚ) :
    0 ≤ bucket.level cap rate now := by
  have burst : (0 : ℚ) ≤ rateBurst := Nat.cast_nonneg _
  apply le_min (burst.trans credits.burst_le)
  exact add_nonneg (Nat.cast_nonneg _) (mul_nonneg credits.rate_nonneg (bucket.elapsed_nonneg now))

theorem level_refills (credits : Credits credit cap rate) {now later : ℚ}
    (ordered : now ≤ later) :
    bucket.level cap rate later ≤ bucket.level cap rate now + rate * (later - now) := by
  have scaled : rate * bucket.elapsed later ≤
      rate * bucket.elapsed now + rate * (later - now) :=
    calc rate * bucket.elapsed later
        ≤ rate * (bucket.elapsed now + (later - now)) :=
          mul_le_mul_of_nonneg_left (bucket.elapsed_le ordered) credits.rate_nonneg
      _ = rate * bucket.elapsed now + rate * (later - now) := mul_add ..
  have elapsed : 0 ≤ rate * (later - now) :=
    mul_nonneg credits.rate_nonneg (sub_nonneg.mpr ordered)
  rw [level, level, min_add]
  apply min_le_min
  · linarith
  · linarith

theorem level_getD_refills (credits : Credits credit cap rate) (entry : Option TokenBucket)
    {now later : ℚ} (ordered : now ≤ later) :
    (entry.getD (TokenBucket.new later)).level cap rate later ≤
      (entry.getD (TokenBucket.new now)).level cap rate now + rate * (later - now) := by
  cases entry with
  | some bucket => exact bucket.level_refills credits ordered
  | none =>
      have elapsed : 0 ≤ rate * (later - now) :=
        mul_nonneg credits.rate_nonneg (sub_nonneg.mpr ordered)
      have full : ∀ instant, (TokenBucket.new instant).level cap rate instant =
          min cap rateBurst := by
        intro instant
        have none : (TokenBucket.new instant).elapsed instant = 0 := elapsed_self rfl
        rw [level, none, mul_zero, add_zero]
        rfl
      rw [Option.getD_none, Option.getD_none, full, full]
      linarith

theorem refill_spec (credits : Credits credit cap rate) (now : ℚ)
    {left : TokenBucket} (refilled : bucket.refill (credit (bucket.elapsed now)) now = left) :
    left.level cap rate now ≤ bucket.level cap rate now ∧
      rate * left.elapsed now ≤ 1 + (cap - rateBurst) ∧
      (left.lastRefill = now ∨ left = bucket) := by
  have burst := credits.burst_le
  subst refilled
  rw [refill]
  split_ifs with earned
  · have credited := credits.credit_le _ (bucket.elapsed_nonneg now)
    have none : elapsed ⟨min (bucket.tokens + credit (bucket.elapsed now)) rateBurst, now,
        Nat.min_le_right ..⟩ now = 0 := elapsed_self rfl
    refine ⟨?_, ?_, .inl rfl⟩
    · rw [level, none, mul_zero, add_zero, Nat.cast_min, Nat.cast_add]
      apply le_min (min_le_left ..)
      calc _ ≤ min (bucket.tokens + credit (bucket.elapsed now) : ℚ) rateBurst := min_le_right ..
        _ ≤ bucket.tokens + credit (bucket.elapsed now) := min_le_left ..
        _ ≤ bucket.tokens + rate * bucket.elapsed now := by gcongr
    · rw [none, mul_zero]
      linarith
  · have unpaid := credits.unpaid_le _ (bucket.elapsed_nonneg now) (Nat.eq_zero_of_not_pos earned)
    exact ⟨le_refl _, unpaid, .inr rfl⟩

theorem level_refilled (credits : Credits credit cap rate) {now : ℚ} (kept : bucket.Kept now)
    {left : TokenBucket} (refilled : bucket.refill (credit (bucket.elapsed now)) now = left) :
    left.level cap rate now = left.tokens + rate * left.elapsed now := by
  rcases bucket.refill_spec credits now refilled with ⟨-, unpaid, either⟩
  apply min_eq_right
  have room : left.lastRefill = now ∨ left.tokens < rateBurst := by
    rcases either with reset | same
    · exact .inl reset
    · rcases kept with fewer | new
      · exact .inr (by rwa [same])
      · exact .inl (by rw [same, new]; rfl)
  rcases room with reset | fewer
  · have full : (left.tokens : ℚ) ≤ rateBurst := Nat.cast_le.mpr left.tokens_le
    rw [elapsed_self reset, mul_zero, add_zero]
    exact full.trans credits.burst_le
  · have fewer : (left.tokens : ℚ) + 1 ≤ rateBurst := by exact_mod_cast fewer
    linarith

theorem consumeBy_level (credits : Credits credit cap rate) {now : ℚ} (kept : bucket.Kept now) :
    (bucket.consumeBy credit now).2.level cap rate now +
        (if (bucket.consumeBy credit now).1 then 1 else 0) ≤ bucket.level cap rate now ∧
      (bucket.consumeBy credit now).2.tokens < rateBurst := by
  rw [consumeBy]
  generalize refilled : bucket.refill (credit (bucket.elapsed now)) now = left
  have drained := (bucket.refill_spec credits now refilled).1
  rw [bucket.level_refilled credits kept refilled] at drained
  rw [take]
  by_cases available : left.tokens > 0
  · have positive : 1 ≤ left.tokens := available
    rw [if_pos available]
    refine ⟨?_, Nat.lt_of_lt_of_le (Nat.sub_lt available Nat.one_pos) left.tokens_le⟩
    apply le_trans _ drained
    have lowered := min_le_right cap ((left.tokens - 1 : ℚ) + rate * left.elapsed now)
    rw [if_pos rfl, level, Nat.cast_sub positive, Nat.cast_one]
    exact (add_le_add_left lowered 1).trans (by linarith)
  · rw [if_neg available]
    refine ⟨?_, ?_⟩
    · have lowered := min_le_right cap ((left.tokens : ℚ) + rate * left.elapsed now)
      simpa [level] using lowered.trans drained
    · rw [Nat.eq_zero_of_not_pos available]
      exact Nat.zero_lt_succ _

end Levels

end TokenBucket

theorem tokensFor_zero : tokensFor 0 = 0 := by
  decide +kernel

/-- What the roundings of `tokensFor` can add to a bound. -/
def slack : ℚ := 1 + 1 / 2 ^ 20

theorem tokensFor_bounds {elapsed : ℚ} (positive : 0 ≤ elapsed) {product : ℚ}
    (computed : binary32.round (asSecsF32 elapsed * ratePerSec) = product) :
    tokensFor elapsed = min product.floor.toNat (UInt32.size - 1) ∧ 0 ≤ product ∧
      product ≤ elapsed * ratePerSec * slack ∧
      (elapsed - 1 / 10 ^ 9) * ratePerSec * (1 - 1 / 2 ^ 20) ≤ product := by
  subst computed
  have rate : (0 : ℚ) ≤ ratePerSec := Nat.cast_nonneg _
  have within := within_asSecsF32_mul positive (show 0 < ratePerSec by decide)
  have error := binary32_pow_four (le_refl 4)
  have whole : 0 ≤ wholeNanos elapsed := by
    rcases wholeNanos_cases positive with zero | nanos
    · exact zero.ge
    · exact le_trans (by norm_num) nanos
  have lower : wholeNanos elapsed * ratePerSec * (1 - 1 / 2 ^ 20) ≤
      binary32.round (asSecsF32 elapsed * ratePerSec) :=
    (mul_le_mul_of_nonneg_left error.1 (mul_nonneg whole rate)).trans within.lower
  refine ⟨toNat_saturated _, ?_, ?_, ?_⟩
  · exact (mul_nonneg (mul_nonneg whole rate) (by norm_num)).trans lower
  · calc binary32.round (asSecsF32 elapsed * ratePerSec)
        ≤ wholeNanos elapsed * ratePerSec * (1 + binary32.unit) ^ 4 := within.upper
      _ ≤ wholeNanos elapsed * ratePerSec * slack :=
          mul_le_mul_of_nonneg_left error.2 (mul_nonneg whole rate)
      _ ≤ elapsed * ratePerSec * slack := by
          have less := wholeNanos_le elapsed
          rw [slack]
          gcongr
  · apply le_trans ?_ lower
    have more := (lt_wholeNanos elapsed).le
    apply mul_le_mul_of_nonneg_right
    · exact mul_le_mul_of_nonneg_right more rate
    · norm_num

theorem credits_tokensFor : Credits tokensFor (slack * rateBurst) (slack * ratePerSec) where
  burst_le := by norm_num [slack, rateBurst]
  rate_nonneg := by norm_num [slack, ratePerSec]
  credit_le := by
    intro elapsed positive
    rcases tokensFor_bounds positive rfl with ⟨cast, above, upper, -⟩
    generalize binary32.round (asSecsF32 elapsed * ratePerSec) = product at *
    calc (tokensFor elapsed : ℚ)
        ≤ (product.floor.toNat : ℕ) := by
          rw [cast]
          exact_mod_cast Nat.min_le_left ..
      _ ≤ product := (floor_toNat_bounds above).1
      _ ≤ slack * ratePerSec * elapsed := by linarith
  unpaid_le := by
    intro elapsed positive nothing
    rcases tokensFor_bounds positive rfl with ⟨cast, above, -, lower⟩
    generalize binary32.round (asSecsF32 elapsed * ratePerSec) = product at *
    have small : product < 1 := by
      have floor : product.floor.toNat = 0 := by
        rw [cast, UInt32.size] at nothing
        omega
      have next := (floor_toNat_bounds above).2
      rwa [floor, Nat.cast_zero, zero_add] at next
    have rate : (ratePerSec : ℚ) = 100 := rfl
    have burst : (rateBurst : ℚ) = 200 := rfl
    rw [rate] at lower ⊢
    rw [slack, burst]
    linarith

def exactTokensFor (elapsed : ℚ) : Nat := (elapsed * ratePerSec).floor.toNat

theorem exactTokensFor_bounds {elapsed : ℚ} (positive : 0 ≤ elapsed) :
    (exactTokensFor elapsed : ℚ) ≤ elapsed * ratePerSec ∧
      elapsed * ratePerSec < (exactTokensFor elapsed : ℚ) + 1 :=
  floor_toNat_bounds (mul_nonneg positive (Nat.cast_nonneg _))

theorem credits_exactTokensFor : Credits exactTokensFor rateBurst ratePerSec where
  burst_le := le_refl _
  rate_nonneg := Nat.cast_nonneg _
  credit_le := by
    intro elapsed positive
    rw [mul_comm]
    exact (exactTokensFor_bounds positive).1
  unpaid_le := by
    intro elapsed positive nothing
    have less := (exactTokensFor_bounds positive).2
    rw [nothing, Nat.cast_zero] at less
    linarith

theorem tokensFor_near {elapsed : ℚ} (positive : 0 ≤ elapsed) :
    min (tokensFor elapsed) rateBurst ≤ min (exactTokensFor elapsed) rateBurst + 1 ∧
      min (exactTokensFor elapsed) rateBurst ≤ min (tokensFor elapsed) rateBurst + 1 := by
  rcases tokensFor_bounds positive rfl with ⟨cast, above, upper, lower⟩
  rcases exactTokensFor_bounds positive with ⟨exactly, next⟩
  generalize binary32.round (asSecsF32 elapsed * ratePerSec) = product at *
  have rate : (ratePerSec : ℚ) = 100 := rfl
  have burst : rateBurst = 200 := rfl
  rw [slack, rate] at upper
  rw [rate] at lower exactly next
  rcases floor_toNat_bounds above with ⟨rounded, left⟩
  rw [UInt32.size] at cast
  by_cases full : 202 ≤ elapsed * 100
  · have many : 200 < product.floor.toNat + 1 := by
      have many : ((200 : ℕ) : ℚ) < (product.floor.toNat + 1 : ℕ) := by
        push_cast
        linarith
      exact_mod_cast many
    have exactMany : 200 < exactTokensFor elapsed + 1 := by
      have many : ((200 : ℕ) : ℚ) < (exactTokensFor elapsed + 1 : ℕ) := by
        push_cast
        linarith
      exact_mod_cast many
    omega
  · have most : product.floor.toNat < exactTokensFor elapsed + 2 := by
      have most : ((product.floor.toNat : ℕ) : ℚ) < (exactTokensFor elapsed + 2 : ℕ) := by
        push_cast
        linarith
      exact_mod_cast most
    have least : exactTokensFor elapsed < product.floor.toNat + 2 := by
      have least : ((exactTokensFor elapsed : ℕ) : ℚ) < (product.floor.toNat + 2 : ℕ) := by
        push_cast
        linarith
      exact_mod_cast least
    omega

end Caraka
