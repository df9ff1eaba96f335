import Mathlib.Data.List.Basic

/-!
# Hold counters

A signal opens a gate, and a counter keeps it open for some more ticks after the last signal. A
tick passes exactly if there was a signal on it or shortly before it.
-/

namespace Nek0.Library

/-- A tick of the counter: whether it passes, and the counter after it. -/
def holdTick (limit held : Nat) (signal : Bool) : Bool × Nat :=
  if signal then (true, limit)
  else if 0 < held then (true, held - 1)
  else (false, held)

/-- There was a signal on one of the last ticks up to tick `n`, `limit` of them before it. -/
def Recent (limit : Nat) (signals : List Bool) (n : Nat) : Prop :=
  ∃ j ≤ n, n ≤ j + limit ∧ signals[j]? = some true

/-- What the counter knows: for how many more ticks the last signal counts. -/
def Counts (limit : Nat) (signals : List Bool) (held : Nat) : Prop :=
  ∀ m, m < held ↔ ∃ j, signals[j]? = some true ∧ signals.length + m < j + 1 + limit

variable {limit held : Nat} {signals : List Bool} {signal : Bool}

theorem counts_start : Counts limit [] 0 := fun m => by simp

theorem holdTick_counts (counts : Counts limit signals held) :
    Counts limit (signals ++ [signal]) (holdTick limit held signal).2 := by
  intro m
  rw [List.length_append, List.length_singleton]
  cases signal with
  | true =>
    show m < limit ↔ _
    constructor
    · intro small
      exact ⟨signals.length, by simp, by omega⟩
    · rintro ⟨j, signalled, recent⟩
      obtain ⟨bound, -⟩ := List.getElem?_eq_some_iff.mp signalled
      rw [List.length_append, List.length_singleton] at bound
      omega
  | false =>
    have less : (holdTick limit held false).2 = held - 1 := by
      unfold holdTick
      split
      · contradiction
      split
      · rfl
      · show held = held - 1
        omega
    have later : (∃ j, (signals ++ [false])[j]? = some true ∧
        signals.length + 1 + m < j + 1 + limit) ↔ m + 1 < held := by
      rw [counts (m + 1)]
      refine exists_congr fun j => and_congr ?_ (by omega)
      rw [List.getElem?_append]
      split
      · rfl
      next behind =>
        have none : signals[j]? = none := List.getElem?_eq_none (Nat.le_of_not_lt behind)
        rw [none]
        cases j - signals.length <;> simp
    rw [less, later]
    exact Nat.lt_sub_iff_add_lt

/-- A tick passes if and only if there was a signal shortly before. -/
theorem holdTick_passes (counts : Counts limit signals held) :
    (holdTick limit held signal).1 = true ↔ Recent limit (signals ++ [signal]) signals.length := by
  cases signal with
  | true =>
    refine iff_of_true rfl ⟨signals.length, Nat.le_refl _, Nat.le_add_right _ _, ?_⟩
    simp
  | false =>
    have open_iff : (holdTick limit held false).1 = true ↔ 0 < held := by
      unfold holdTick
      split
      · contradiction
      split <;> simp_all
    rw [open_iff, counts 0]
    constructor
    · rintro ⟨j, signalled, recent⟩
      obtain ⟨bound, -⟩ := List.getElem?_eq_some_iff.mp signalled
      refine ⟨j, Nat.le_of_lt bound, by omega, ?_⟩
      rw [List.getElem?_append_left bound, signalled]
    · rintro ⟨j, before, recent, signalled⟩
      obtain same | before := Nat.eq_or_lt_of_le before
      · rw [same] at signalled
        simp at signalled
      · rw [List.getElem?_append_left before] at signalled
        exact ⟨j, signalled, by omega⟩

/-- Later ticks do not change what was recent. -/
theorem recent_append {n : Nat} (more : List Bool) (within : n < signals.length) :
    Recent limit (signals ++ more) n ↔ Recent limit signals n := by
  refine exists_congr fun j => and_congr_right fun before => ?_
  rw [List.getElem?_append_left (Nat.lt_of_le_of_lt before within)]

end Nek0.Library
