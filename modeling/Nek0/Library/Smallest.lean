import Mathlib.Data.List.Dedup
import Mathlib.Data.List.Destutter
import Mathlib.Data.List.Sort

/-!
# The smallest entries of a list

Sorting, dropping repetitions and cutting off gives the smallest distinct entries in ascending
order: those with fewer than `n` distinct entries below them.
-/

namespace Nek0.Library

variable {α : Type*} [LE α]

section Definitions

variable [DecidableLE α] [DecidableEq α]

/-- The distinct entries in ascending order. -/
def ascending (entries : List α) : List α :=
  (entries.mergeSort fun a b => decide (a ≤ b)).destutter (· ≠ ·)

def smallest (n : Nat) (entries : List α) : List α := (ascending entries).take n

/-- How many distinct entries are below. -/
def below [LT α] [DecidableLT α] (entries : List α) (a : α) : Nat := entries.dedup.countP (· < a)

theorem length_smallest_le (n : Nat) (entries : List α) : (smallest n entries).length ≤ n :=
  List.length_take_le _ _

end Definitions

variable [Std.IsLinearOrder α]

theorem pairwise_sorted [DecidableLE α] (entries : List α) :
    (entries.mergeSort fun a b => decide (a ≤ b)).Pairwise (· ≤ ·) := by
  have transitive (a b c : α) (first : decide (a ≤ b) = true) (second : decide (b ≤ c) = true) :
      decide (a ≤ c) = true :=
    decide_eq_true (Std.le_trans (of_decide_eq_true first) (of_decide_eq_true second))
  have total (a b : α) : (decide (a ≤ b) || decide (b ≤ a)) = true := by
    simpa using Std.le_total (a := a) (b := b)
  refine (List.pairwise_mergeSort transitive total entries).imp ?_
  intro a b ordered
  exact of_decide_eq_true ordered

/-- In an ascending list the first `n` entries are those with fewer than `n` below them. -/
theorem mem_take_iff_of_pairwise [LT α] [DecidableLT α] [Std.LawfulOrderLT α] {entries : List α}
    (ascends : entries.Pairwise (· < ·)) (n : Nat) (a : α) :
    a ∈ entries.take n ↔ a ∈ entries ∧ entries.countP (· < a) < n := by
  induction entries generalizing n with
  | nil => simp
  | cons first entries ih =>
    obtain ⟨lowest, rest⟩ := List.pairwise_cons.mp ascends
    cases n with
    | zero => simp
    | succ n =>
      rw [List.take_succ_cons, List.mem_cons, List.mem_cons, ih rest, List.countP_cons]
      by_cases same : a = first
      · subst same
        have none : entries.countP (· < a) = 0 := by
          rw [List.countP_eq_zero]
          intro b listed lower
          exact Std.lt_irrefl (Std.lt_trans (lowest b listed) (of_decide_eq_true lower))
        simp [none, Std.lt_irrefl]
      · simp only [same, false_or]
        refine and_congr_right fun listed => ?_
        simp [lowest a listed]

section Smallest

variable [DecidableLE α] [DecidableEq α]

theorem ascending_eq_dedup (entries : List α) :
    ascending entries = (entries.mergeSort fun a b => decide (a ≤ b)).dedup :=
  (pairwise_sorted entries).destutter_eq_dedup

theorem ascending_perm (entries : List α) : (ascending entries).Perm entries.dedup := by
  rw [ascending_eq_dedup]
  exact (List.mergeSort_perm entries _).dedup

theorem mem_of_mem_smallest {n : Nat} {entries : List α} {a : α} (listed : a ∈ smallest n entries) :
    a ∈ entries :=
  List.mem_dedup.mp ((ascending_perm entries).mem_iff.mp (List.mem_of_mem_take listed))

variable [LT α] [Std.LawfulOrderLT α]

theorem pairwise_ascending (entries : List α) : (ascending entries).Pairwise (· < ·) := by
  have distinct : (ascending entries).Pairwise (· ≠ ·) := by
    rw [ascending_eq_dedup]
    exact List.nodup_dedup _
  have sorted : (ascending entries).Pairwise (· ≤ ·) :=
    (pairwise_sorted entries).sublist (List.destutter_sublist _ _)
  exact (sorted.and distinct).imp fun both => Std.lt_of_le_of_ne both.1 both.2

theorem pairwise_smallest (n : Nat) (entries : List α) :
    (smallest n entries).Pairwise (· < ·) :=
  (pairwise_ascending entries).sublist (List.take_sublist _ _)

/-- What is cut off is above all that is left, and that is `n` entries. -/
theorem smallest_full {n : Nat} {entries : List α} {a : α} (entry : a ∈ entries)
    (cut : a ∉ smallest n entries) :
    (smallest n entries).length = n ∧ ∀ b ∈ smallest n entries, b < a := by
  have listed : a ∈ ascending entries :=
    (ascending_perm entries).mem_iff.mpr (List.mem_dedup.mpr entry)
  have ascends := pairwise_ascending entries
  rw [← List.take_append_drop n (ascending entries)] at listed ascends
  have dropped := (List.mem_append.mp listed).resolve_left cut
  refine ⟨?_, fun b kept => (List.pairwise_append.mp ascends).2.2 b kept a dropped⟩
  have long : n < (ascending entries).length := by
    by_contra short
    rw [List.drop_eq_nil_of_le (Nat.not_lt.mp short)] at dropped
    cases dropped
  exact List.length_take_of_le (Nat.le_of_lt long)

theorem mem_smallest_iff [DecidableLT α] (n : Nat) (entries : List α) (a : α) :
    a ∈ smallest n entries ↔ a ∈ entries ∧ below entries a < n := by
  have same := ascending_perm entries
  rw [smallest, mem_take_iff_of_pairwise (pairwise_ascending entries), below, same.mem_iff,
    List.mem_dedup, same.countP_eq]

end Smallest

end Nek0.Library
