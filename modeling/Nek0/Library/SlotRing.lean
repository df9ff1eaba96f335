import Mathlib.Algebra.BigOperators.Fin
import Mathlib.Algebra.BigOperators.Group.Finset.Basic
import Mathlib.Algebra.Group.Fin.Basic
import Mathlib.Algebra.Group.Units.Equiv
import Mathlib.Logic.Function.Basic

/-!
# A ring of the last entries

An array of fixed size with the index that is written next. After any number of entries it holds
the last ones, and a sum over the array is a sum over them.
-/

namespace Nek0.Library

structure SlotRing (n : Nat) [NeZero n] (α : Type*) where
  cells : Fin n → α
  next : Fin n

namespace SlotRing

variable {n : Nat} [NeZero n] {α : Type*}

def new (a : α) : SlotRing n α := ⟨fun _ => a, 0⟩

def push (r : SlotRing n α) (a : α) : SlotRing n α := ⟨Function.update r.cells r.next a, r.next + 1⟩

/-- The entry that was written last. -/
def last (r : SlotRing n α) : α := r.cells (r.next - 1)

/-- The entries, latest first, are those of the history. -/
def Holds (r : SlotRing n α) (history : Nat → α) : Prop :=
  ∀ age : Fin n, r.cells (r.next - 1 - age) = history age

theorem holds_new (a : α) : (new a : SlotRing n α).Holds fun _ => a := fun _ => rfl

theorem Holds.last {r : SlotRing n α} {history : Nat → α} (holds : r.Holds history) :
    r.last = history 0 := by
  have newest := holds 0
  rwa [sub_zero] at newest

/-- The new entry pushes out the oldest one. -/
theorem Holds.push {r : SlotRing n α} {history older : Nat → α} (holds : r.Holds older) (a : α)
    (first : history 0 = a) (rest : ∀ age, history (age + 1) = older age) :
    (r.push a).Holds history := by
  intro age
  have written : (r.push a).next - 1 = r.next := add_sub_cancel_right r.next 1
  rw [written]
  change Function.update r.cells r.next a (r.next - age) = history age
  by_cases newest : age = 0
  · rw [newest, sub_zero, Function.update_self]
    exact first.symm
  · have other : r.next - age ≠ r.next := fun same => newest (sub_eq_self.mp same)
    have before : r.next - age = r.next - 1 - (age - 1) :=
      (sub_sub_sub_cancel_right r.next age 1).symm
    have older_age : (age - 1).val + 1 = age.val := by
      rw [Fin.val_sub_one_of_ne_zero newest]
      have := Fin.val_ne_zero_iff.mpr newest
      omega
    rw [Function.update_of_ne other, before, holds (age - 1), ← rest, older_age]

theorem Holds.sum {M : Type*} [AddCommMonoid M] {r : SlotRing n α} {history : Nat → α}
    (holds : r.Holds history) (f : α → M) :
    ∑ i, f (r.cells i) = ∑ age : Fin n, f (history age) := by
  have turned := Equiv.sum_comp (Equiv.subLeft (r.next - 1)) fun i => f (r.cells i)
  rw [← turned]
  exact Finset.sum_congr rfl fun age _ => congrArg f (holds age)

end SlotRing

end Nek0.Library
