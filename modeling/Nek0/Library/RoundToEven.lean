import Mathlib.Algebra.Group.Nat.Defs
import Mathlib.Data.Nat.Log

/-!
# Rounding to a number of significant bits

To the nearest number that has at most `p` significant bits, ties to even, as conversions and
arithmetic of floating point do.
-/

namespace Nek0.Library

/-- The number of low bits that do not fit. -/
def excess (p n : Nat) : Nat := n.log2 + 1 - p

def roundToEven (p n : Nat) : Nat :=
  let unit := 2 ^ excess p n
  let low := n % unit
  let up := unit < 2 * low || (unit == 2 * low && n / unit % 2 == 1)
  (n / unit + if up then 1 else 0) * unit

@[simp] theorem roundToEven_zero (p : Nat) : roundToEven p 0 = 0 := by
  simp [roundToEven]

/-- What fits is not rounded. -/
theorem roundToEven_of_lt {p n : Nat} (fits : n < 2 ^ p) : roundToEven p n = n := by
  by_cases zero : n = 0
  · rw [zero, roundToEven_zero]
  · have short := (Nat.log2_lt zero).mpr fits
    have none : excess p n = 0 := by
      unfold excess
      omega
    simp [roundToEven, none, Nat.mod_one]

end Nek0.Library
