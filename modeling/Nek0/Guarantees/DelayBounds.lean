import Mathlib.Tactic.GCongr
import Mathlib.Tactic.NormNum
import Nek0.Source.ReconnectPolicy

/-!
# Bounds of the reconnect delay

The cap is applied before the jitter, and the floor after it. So a delay is never below the minimum
and never shrinks with the attempts, but from the fifth attempt on, where the backoff has reached
the cap, every draw that lengthens the delay by half a millisecond leads beyond it.
-/

namespace Nek0.Guarantees

open Nek0.Source Nek0.Source.ReconnectPolicy

/-- A delay is within its bounds, and no later attempt waits less under the same draw. -/
structure DelayInBounds (attempt : Nat) (random : Draw) : Prop where
  least : minDelay ≤ delayFor attempt random
  most : delayFor attempt random ≤ maxDelay
  grows : ∀ later, attempt ≤ later → delayFor attempt random ≤ delayFor later random

def jitterFactor (random : Draw) : ℚ := 1 + (random.value * 2 - 1) * jitterFraction

section Delay

variable {attempt : Nat} (random : Draw)

theorem delayFor_eq (attempt : Nat) : delayFor attempt random =
    max ⌊(capped attempt : ℚ) * jitterFactor random + 1 / 2⌋₊ minDelay := rfl

theorem jitterFactor_bounds : 4 / 5 ≤ jitterFactor random ∧ jitterFactor random < 6 / 5 := by
  have low := random.nonneg
  have high := random.below_one
  simp only [jitterFactor, jitterFraction]
  constructor <;> linarith

theorem capped_mono {later : Nat} (le : attempt ≤ later) : capped attempt ≤ capped later := by
  have exponent : min attempt 16 ≤ min later 16 := min_le_min_right 16 le
  have power : 2 ^ min attempt 16 ≤ 2 ^ min later 16 := Nat.pow_le_pow_right (by decide) exponent
  exact min_le_min_right maxDelay (Nat.mul_le_mul_left baseDelay power)

theorem capped_of_early (early : attempt < 4) : capped attempt ≤ 16000 := by
  have bound := capped_mono (Nat.le_of_lt_succ early)
  exact bound.trans (by decide)

theorem capped_of_late (late : 4 ≤ attempt) : capped attempt = maxDelay := by
  apply Nat.le_antisymm
  · exact min_le_right _ _
  · have bound := capped_mono late
    exact le_trans (by decide) bound

theorem delayFor_mono {later : Nat} (le : attempt ≤ later) :
    delayFor attempt random ≤ delayFor later random := by
  have positive : 0 ≤ jitterFactor random := by
    have low := (jitterFactor_bounds random).1
    linarith
  have backoff : (capped attempt : ℚ) ≤ capped later := by exact_mod_cast capped_mono le
  rw [delayFor_eq, delayFor_eq]
  refine max_le_max_right minDelay (Nat.floor_mono ?_)
  gcongr

/-- The floor is below the cap, so only the rounded delay can be beyond it. -/
theorem delayFor_le_maxDelay_iff : delayFor attempt random ≤ maxDelay ↔
    (capped attempt : ℚ) * jitterFactor random + 1 / 2 < 30001 := by
  have low := (jitterFactor_bounds random).1
  have some_delay : (0 : ℚ) ≤ (capped attempt : ℚ) * jitterFactor random + 1 / 2 := by positivity
  have floor_below : minDelay ≤ maxDelay := by decide
  rw [delayFor_eq, max_le_iff, and_iff_left floor_below, ← Nat.lt_succ_iff,
    Nat.floor_lt some_delay]
  rfl

end Delay

/-- The delay is within its bounds, and grows with the attempt, exactly if the attempt is an early
one or the random value is in its lower half. -/
theorem delay_in_bounds_iff (attempt : Nat) (random : Draw) :
    DelayInBounds attempt random ↔ attempt < 4 ∨ random.value < 12001 / 24000 := by
  have bounds := jitterFactor_bounds random
  have capped_iff : delayFor attempt random ≤ maxDelay ↔
      attempt < 4 ∨ random.value < 12001 / 24000 := by
    rw [delayFor_le_maxDelay_iff]
    rcases Nat.lt_or_ge attempt 4 with early | late
    · refine iff_of_true ?_ (.inl early)
      have backoff : (capped attempt : ℚ) ≤ 16000 := by exact_mod_cast capped_of_early early
      nlinarith
    · rw [capped_of_late late, or_iff_right (Nat.not_lt.mpr late)]
      simp only [maxDelay, jitterFactor, jitterFraction]
      constructor <;> intro bound <;> push_cast at * <;> linarith
  constructor
  · exact fun inside => capped_iff.mp inside.most
  · intro condition
    exact ⟨le_max_right _ _, capped_iff.mpr condition, fun _ => delayFor_mono random⟩

def threeQuarters : Draw := ⟨3 / 4, by norm_num, by norm_num⟩

/-- The delay before the fifth attempt is 33 seconds where the draw is 0.75. -/
theorem fifth_delay_beyond_cap :
    delayFor 4 threeQuarters = 33000 ∧ ¬DelayInBounds 4 threeQuarters := by
  have late : capped 4 = 30000 := by decide
  have rounded : ⌊(66001 / 2 : ℚ)⌋₊ = 33000 := by
    rw [Nat.floor_eq_iff (by norm_num)]
    norm_num
  have delay : delayFor 4 threeQuarters = 33000 := by
    norm_num [delayFor, late, threeQuarters, jitterFraction, minDelay, rounded]
  refine ⟨delay, fun inside => ?_⟩
  have most := inside.most
  rw [delay] at most
  exact absurd most (by decide)

end Nek0.Guarantees
