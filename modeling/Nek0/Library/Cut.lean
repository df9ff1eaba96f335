import Mathlib.Data.List.Basic

/-!
# Cutting a stream into blocks

A stream is cut into blocks of one size, and what does not fill a block stays behind. Cutting
chunk by chunk, each behind what stayed of the one before, cuts the same blocks.
-/

namespace Nek0.Library

variable {α : Type*} {size times more : Nat} {xs ys : List α}

/-- The first blocks of a stream. -/
def cutTimes (size : Nat) : Nat → List α → List (List α)
  | 0, _ => []
  | times + 1, xs => xs.take size :: cutTimes size times (xs.drop size)

/-- All full blocks of a stream. -/
def cut (size : Nat) (xs : List α) : List (List α) := cutTimes size (xs.length / size) xs

/-- What does not fill a block. -/
def remainder (size : Nat) (xs : List α) : List α := xs.drop (xs.length / size * size)

theorem cutTimes_add : cutTimes size (times + more) xs =
    cutTimes size times xs ++ cutTimes size more (xs.drop (times * size)) := by
  induction times generalizing xs with
  | zero => simp [cutTimes]
  | succ times ih =>
    rw [Nat.succ_add, cutTimes, cutTimes, ih, List.drop_drop, List.cons_append, Nat.succ_mul,
      Nat.add_comm size]

/-- Blocks that a stream fills do not depend on what follows. -/
theorem cutTimes_append (enough : times * size ≤ xs.length) :
    cutTimes size times (xs ++ ys) = cutTimes size times xs := by
  induction times generalizing xs with
  | zero => rfl
  | succ times ih =>
    rw [Nat.succ_mul] at enough
    have first : size ≤ xs.length := by omega
    rw [cutTimes, cutTimes, List.take_append_of_le_length first,
      List.drop_append_of_le_length first, ih (by rw [List.length_drop]; omega)]

theorem length_of_mem_cutTimes {block : List α} (enough : times * size ≤ xs.length)
    (listed : block ∈ cutTimes size times xs) : block.length = size := by
  induction times generalizing xs with
  | zero => cases listed
  | succ times ih =>
    rw [Nat.succ_mul] at enough
    obtain rfl | later := List.mem_cons.mp listed
    · rw [List.length_take]
      omega
    · exact ih (by rw [List.length_drop]; omega) later

theorem length_remainder : (remainder size xs).length = xs.length % size := by
  rw [remainder, List.length_drop]
  have whole := Nat.div_add_mod xs.length size
  rw [Nat.mul_comm] at whole
  omega

/-- What stays behind is the end of the stream. -/
theorem remainder_eq_end : remainder size xs = xs.drop (xs.length - xs.length % size) := by
  have whole := Nat.div_add_mod xs.length size
  rw [Nat.mul_comm] at whole
  have start : xs.length / size * size = xs.length - xs.length % size := by omega
  rw [remainder, start]

theorem drop_full : (xs ++ ys).drop (xs.length / size * size) = remainder size xs ++ ys :=
  List.drop_append_of_le_length (Nat.div_mul_le_self _ _)

/-- The blocks of two parts are those of the first and those of what stays of it with the
second. -/
theorem length_append_div (filled : 0 < size) : (xs ++ ys).length / size =
    xs.length / size + (remainder size xs ++ ys).length / size := by
  have whole := Nat.div_add_mod xs.length size
  have regrouped : (xs ++ ys).length =
      xs.length / size * size + (remainder size xs ++ ys).length := by
    rw [List.length_append, List.length_append, length_remainder, Nat.mul_comm]
    omega
  rw [regrouped, Nat.add_comm, Nat.add_mul_div_right _ _ filled, Nat.add_comm]

theorem cut_append (filled : 0 < size) :
    cut size (xs ++ ys) = cut size xs ++ cut size (remainder size xs ++ ys) := by
  rw [cut, length_append_div filled, cutTimes_add, cutTimes_append (Nat.div_mul_le_self _ _),
    drop_full]
  rfl

theorem remainder_append (filled : 0 < size) :
    remainder size (xs ++ ys) = remainder size (remainder size xs ++ ys) := by
  rw [remainder, length_append_div filled, Nat.add_mul, ← List.drop_drop, drop_full]
  rfl

theorem cut_of_short (short : xs.length < size) : cut size xs = [] ∧ remainder size xs = xs := by
  have none : xs.length / size = 0 := Nat.div_eq_of_lt short
  rw [cut, remainder, none]
  exact ⟨rfl, by simp⟩

end Nek0.Library
