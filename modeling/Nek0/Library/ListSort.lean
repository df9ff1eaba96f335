import Mathlib.Data.List.Pairwise
import Mathlib.Data.List.Chain

/-!
# Sorting with a comparator

A comparator answers with the sign of an integer. A sort promises an ordered permutation and says
nothing of the order of elements that compare equal, as the sort of many standard libraries does.
-/

namespace Nek0.Library

structure Comparator (α : Type*) where
  compare : α → α → Int
  lt_iff_gt : ∀ a b, compare a b < 0 ↔ 0 < compare b a
  trans : ∀ a b c, compare a b ≤ 0 → compare b c ≤ 0 → compare a c ≤ 0

namespace Comparator

/-- The order of the numbers that the elements have. -/
def onRank {α : Type*} (rank : α → Int) : Comparator α where
  compare a b := (rank a - rank b).sign
  lt_iff_gt a b := by
    rw [Int.sign_neg_iff, Int.sign_pos_iff]
    omega
  trans a b c := by
    simp only [Int.sign_nonpos_iff]
    omega

variable {α : Type*} (order : Comparator α)

theorem total (a b : α) : order.compare a b ≤ 0 ∨ order.compare b a ≤ 0 := by
  have := order.lt_iff_gt b a
  omega

theorem compare_self (a : α) : order.compare a a = 0 := by
  have := order.lt_iff_gt a a
  omega

/-- The elements are equal, or the first one compares less. -/
def Before (a b : α) : Prop := a = b ∨ order.compare a b < 0

variable {order} {a b c : α}

theorem Before.le (before : order.Before a b) : order.compare a b ≤ 0 := by
  rcases before with rfl | lt
  · exact Int.le_of_eq (order.compare_self a)
  · exact Int.le_of_lt lt

theorem Before.trans (first : order.Before a b) (second : order.Before b c) :
    order.Before a c := by
  rcases first with rfl | lt
  · exact second
  rcases second with rfl | lt'
  · exact .inr lt
  refine .inr ?_
  by_contra not_lt
  have back := order.lt_iff_gt a c
  have fore := order.lt_iff_gt b c
  have le := order.trans c a b (by omega) (Int.le_of_lt lt)
  omega

end Comparator

structure ListSort {α : Type*} (order : Comparator α) where
  sort : List α → List α
  perm : ∀ l, (sort l).Perm l
  ordered : ∀ l, (sort l).Pairwise fun a b => order.compare a b ≤ 0

namespace ListSort

variable {α : Type*} {order : Comparator α} {l out : List α}

variable (order) in
/-- The sort that keeps elements that compare equal in their order. -/
def stable : ListSort order where
  sort l := l.mergeSort fun a b => decide (order.compare a b ≤ 0)
  perm l := List.mergeSort_perm l _
  ordered l := by
    have trans : ∀ a b c, decide (order.compare a b ≤ 0) = true →
        decide (order.compare b c ≤ 0) = true → decide (order.compare a c ≤ 0) = true := by
      simpa only [decide_eq_true_eq] using order.trans
    have total : ∀ a b,
        (decide (order.compare a b ≤ 0) || decide (order.compare b a ≤ 0)) = true := by
      simpa only [Bool.or_eq_true, decide_eq_true_eq] using order.total
    exact (List.pairwise_mergeSort trans total l).imp of_decide_eq_true

variable [DecidableEq α] in
/-- A sort may answer with any ordered permutation. -/
def answering (l out : List α) (perm : out.Perm l)
    (ordered : out.Pairwise fun a b => order.compare a b ≤ 0) : ListSort order where
  sort k := if k = l then out else (stable order).sort k
  perm k := by
    split
    next same => exact same ▸ perm
    · exact (stable order).perm k
  ordered k := by
    split
    · exact ordered
    · exact (stable order).ordered k

theorem sort_eq (s : ListSort order) (perm : out.Perm l) (strict : out.Pairwise order.Before) :
    s.sort l = out := by
  refine List.Perm.eq_of_pairwise ?_ (s.ordered l) (strict.imp Comparator.Before.le)
    ((s.perm l).trans perm.symm)
  intro a b listed listed' le le'
  have listed : a ∈ out := perm.mem_iff.mpr ((s.perm l).mem_iff.mp listed)
  have comparable : out.Pairwise fun a b => order.Before a b ∨ order.Before b a :=
    strict.imp .inl
  have : Std.Symm fun a b => order.Before a b ∨ order.Before b a := ⟨fun _ _ => Or.symm⟩
  have lt_iff := order.lt_iff_gt a b
  have gt_iff := order.lt_iff_gt b a
  by_contra apart
  rcases comparable.forall listed listed' apart with
    (same | lt) | (same | lt)
  · exact apart same
  · omega
  · exact apart same.symm
  · omega

/-- Two neighbours that compare equal may change places. -/
theorem ordered_swap {x z : List α} {a b : α}
    (ordered : (x ++ a :: b :: z).Pairwise fun a b => order.compare a b ≤ 0)
    (le : order.compare b a ≤ 0) :
    (x ++ b :: a :: z).Pairwise fun a b => order.compare a b ≤ 0 := by
  simp only [List.pairwise_append, List.pairwise_cons, List.mem_cons, forall_eq_or_imp] at ordered ⊢
  obtain ⟨inX, ⟨⟨-, fromA⟩, fromB, inZ⟩, across⟩ := ordered
  refine ⟨inX, ⟨⟨le, fromB⟩, fromA, inZ⟩, fun c listed => ?_⟩
  obtain ⟨toA, toB, toZ⟩ := across c listed
  exact ⟨toB, toA, toZ⟩

/-- All sorts agree on an answer exactly if its elements are strictly ordered. -/
theorem forall_sort_eq_iff [DecidableEq α] :
    (∀ s : ListSort order, s.sort l = out) ↔ out.Perm l ∧ out.Pairwise order.Before := by
  constructor
  · intro answer
    have perm : out.Perm l := answer (stable order) ▸ (stable order).perm l
    have ordered := answer (stable order) ▸ (stable order).ordered l
    refine ⟨perm, ?_⟩
    have : Trans order.Before order.Before order.Before := ⟨Comparator.Before.trans⟩
    refine (List.isChain_iff_forall_rel_of_append_cons_cons.mpr ?_).pairwise
    rintro a b x z rfl
    by_contra not_before
    simp only [Comparator.Before, not_or] at not_before
    have le : order.compare b a ≤ 0 := by
      have := order.lt_iff_gt a b
      omega
    have swapped : (x ++ b :: a :: z).Perm (x ++ a :: b :: z) :=
      (List.Perm.swap a b z).append_left x
    have same := answer (answering l _ (swapped.trans perm) (ordered_swap ordered le))
    simp only [answering, if_true, List.append_cancel_left_eq, List.cons.injEq] at same
    exact not_before.1 same.1.symm
  · rintro ⟨perm, strict⟩ s
    exact s.sort_eq perm strict

end ListSort

end Nek0.Library
