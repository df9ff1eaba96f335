import Nek0.Library.LittleEndian

/-!
# Big-endian numbers

A number as bytes, the most significant byte first.
-/

namespace Nek0.Library.BigEndian

/-- The lowest `width` bytes of a number. -/
def bytes (width n : Nat) : List UInt8 := (LittleEndian.bytes width n).reverse

def value (l : List UInt8) : Nat := LittleEndian.value l.reverse

@[simp] theorem length_bytes (width n : Nat) : (bytes width n).length = width := by
  rw [bytes, List.length_reverse]
  induction width generalizing n with
  | zero => rfl
  | succ width ih => simp only [LittleEndian.bytes, List.length_cons, ih]

theorem value_bytes (width n : Nat) : value (bytes width n) = n % 256 ^ width := by
  rw [value, bytes, List.reverse_reverse]
  exact LittleEndian.value_bytes width n

theorem value_bytes_of_lt {width n : Nat} (small : n < 256 ^ width) :
    value (bytes width n) = n := by
  rw [value_bytes, Nat.mod_eq_of_lt small]

theorem value_lt (l : List UInt8) : value l < 256 ^ l.length := by
  have forward : ∀ m : List UInt8, LittleEndian.value m < 256 ^ m.length := by
    intro m
    induction m with
    | nil => simp [LittleEndian.value]
    | cons b m ih =>
      have small := b.toNat_lt
      have power : 256 ^ (m.length + 1) = 256 * 256 ^ m.length := Nat.pow_succ'
      rw [LittleEndian.value, List.length_cons, power]
      omega
  have whole := forward l.reverse
  rwa [List.length_reverse] at whole

/-- A number has one representation of each width. -/
theorem bytes_value (l : List UInt8) : bytes l.length (value l) = l := by
  have forward : ∀ m : List UInt8, LittleEndian.bytes m.length (LittleEndian.value m) = m := by
    intro m
    induction m with
    | nil => rfl
    | cons b m ih =>
      have low : UInt8.ofNat (b.toNat + 256 * LittleEndian.value m) = b := by
        apply UInt8.toNat_inj.mp
        have small := b.toNat_lt
        rw [UInt8.toNat_ofNat']
        omega
      have high : (b.toNat + 256 * LittleEndian.value m) / 256 = LittleEndian.value m := by
        have small := b.toNat_lt
        omega
      rw [LittleEndian.value, List.length_cons, LittleEndian.bytes, low, high, ih]
  have whole := forward l.reverse
  rw [bytes, value, ← List.length_reverse, whole, List.reverse_reverse]

end Nek0.Library.BigEndian
