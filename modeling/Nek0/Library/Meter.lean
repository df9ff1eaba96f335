import Mathlib.Algebra.BigOperators.Group.List.Basic
import Mathlib.Algebra.Order.BigOperators.Group.List
import Mathlib.Algebra.Order.Field.Basic
import Mathlib.Data.Nat.Cast.Order.Ring
import Mathlib.Tactic.Linarith

/-!
# Payments out of a growing balance

Payments are made at moments that never go back, out of a balance that grows at a bounded rate.
The balance counts everything that could be paid at the moment, also what has grown and was not
booked yet. What is paid in any stretch of time is then bounded by its length.
-/

namespace Nek0.Library

section Paid

variable {F : Type*} [AddCommMonoid F] {log more : List (Nat × F)} {first last now : Nat}
  {costs : List F}

/-- What was paid from the first moment to the last, both included. -/
def paid (log : List (Nat × F)) (first last : Nat) : F :=
  ((log.filter fun payment => first ≤ payment.1 ∧ payment.1 ≤ last).map Prod.snd).sum

theorem paid_append :
    paid (log ++ more) first last = paid log first last + paid more first last := by
  simp [paid]

theorem paid_of_later (past : ∀ payment ∈ log, payment.1 < first) : paid log first last = 0 := by
  have none : log.filter (fun payment => first ≤ payment.1 ∧ payment.1 ≤ last) = [] := by
    rw [List.filter_eq_nil_iff]
    intro payment listed
    have before := past payment listed
    simp only [decide_eq_true_eq]
    omega
  rw [paid, none]
  rfl

theorem paid_of_past (past : ∀ payment ∈ log, payment.1 ≤ now) (later : now ≤ last) :
    paid log first last = paid log first now := by
  have same : log.filter (fun payment => first ≤ payment.1 ∧ payment.1 ≤ last) =
      log.filter fun payment => first ≤ payment.1 ∧ payment.1 ≤ now := by
    refine List.filter_congr fun payment listed => ?_
    have before := past payment listed
    simp only [decide_eq_decide]
    omega
  rw [paid, same, paid]

/-- The payments of one moment. -/
def payNow (now : Nat) (costs : List F) : List (Nat × F) := costs.map fun cost => (now, cost)

theorem paid_payNow : paid (payNow now costs) first last =
    if first ≤ now ∧ now ≤ last then costs.sum else 0 := by
  induction costs with
  | nil => simp [paid, payNow]
  | cons cost costs ih =>
    have split : paid (payNow now (cost :: costs)) first last =
        (if first ≤ now ∧ now ≤ last then cost else 0) + paid (payNow now costs) first last := by
      by_cases inside : first ≤ now ∧ now ≤ last
      · simp [paid, payNow, inside]
      · simp only [paid, payNow, List.map_cons, List.filter_cons, decide_eq_true_eq, inside,
          if_false]
        simp
    rw [split, ih]
    split_ifs <;> simp

omit [AddCommMonoid F] in
theorem mem_payNow {payment : Nat × F} (listed : payment ∈ payNow now costs) : payment.1 = now := by
  obtain ⟨cost, -, rfl⟩ := List.mem_map.mp listed
  rfl

/-- A payment counts for no stretch of time that ended before. -/
theorem paid_before (ended : last < now) :
    paid (log ++ payNow now costs) first last = paid log first last := by
  rw [paid_append, paid_payNow, if_neg (by omega), add_zero]

omit [AddCommMonoid F] in
theorem past_payNow {clock : Nat} (past : ∀ payment ∈ log, payment.1 ≤ clock)
    (later : clock ≤ now) : ∀ payment ∈ log ++ payNow now costs, payment.1 ≤ now := by
  intro payment listed
  rcases List.mem_append.mp listed with earlier | new
  · exact (past payment earlier).trans later
  · exact (mem_payNow new).le

end Paid

variable {F : Type*} [Field F] [LinearOrder F] {log : List (Nat × F)} {now clock first : Nat}
  {rate burst base level left : F} {costs : List F}

/-- Everything paid since the first moment, with what is left, has grown since then or was there
in the beginning. -/
def Funded (rate base : F) (first : Nat) (log : List (Nat × F)) (clock : Nat) (level : F) : Prop :=
  paid log first clock + level ≤ base + rate * ((clock - first : Nat) : F)

/-- The payments of a balance that never exceeds a burst. -/
structure Metered (rate burst : F) (log : List (Nat × F)) (clock : Nat) (level : F) : Prop where
  past : ∀ payment ∈ log, payment.1 ≤ clock
  small : level ≤ burst
  funded : ∀ first ≤ clock, Funded rate burst first log clock level
  bounded : ∀ first last, first ≤ last →
    paid log first last ≤ burst + rate * ((last - first : Nat) : F)

variable [IsStrictOrderedRing F]

theorem paid_nonneg {last : Nat} (owed : ∀ payment ∈ log, 0 ≤ payment.2) :
    0 ≤ paid log first last := by
  refine List.sum_nonneg fun cost listed => ?_
  obtain ⟨payment, counted, rfl⟩ := List.mem_map.mp listed
  exact owed payment (List.mem_of_mem_filter counted)

theorem Funded.pay (funded : Funded rate base first log clock level) (started : first ≤ clock)
    (later : clock ≤ now) (past : ∀ payment ∈ log, payment.1 ≤ clock)
    (afford : left + costs.sum ≤ level + rate * ((now - clock : Nat) : F)) :
    Funded rate base first (log ++ payNow now costs) now left := by
  have span : ((now - first : Nat) : F) =
      ((clock - first : Nat) : F) + ((now - clock : Nat) : F) := by
    rw [← Nat.cast_add]
    congr 1
    omega
  have inside : first ≤ now ∧ now ≤ now := ⟨started.trans later, le_rfl⟩
  rw [Funded] at funded ⊢
  rw [paid_append, paid_payNow, if_pos inside, paid_of_past past later, span, mul_add]
  linarith

theorem Funded.bounded {last : Nat} (funded : Funded rate base first log clock level)
    (growing : 0 ≤ rate) (solvent : 0 ≤ level) (past : ∀ payment ∈ log, payment.1 ≤ clock)
    (later : clock ≤ last) : paid log first last ≤ base + rate * ((last - first : Nat) : F) := by
  have longer : rate * ((clock - first : Nat) : F) ≤ rate * ((last - first : Nat) : F) :=
    mul_le_mul_of_nonneg_left (Nat.cast_le.mpr (by omega)) growing
  rw [Funded] at funded
  rw [paid_of_past past later]
  linarith

theorem metered_nil (rate burst : F) (clock : Nat) (growing : 0 ≤ rate) (allowed : 0 ≤ burst) :
    Metered rate burst [] clock burst where
  past payment listed := by cases listed
  small := le_rfl
  funded first started := by
    have grown : 0 ≤ rate * ((clock - first : Nat) : F) := mul_nonneg growing (Nat.cast_nonneg _)
    simp only [Funded, paid, List.filter_nil, List.map_nil, List.sum_nil]
    linarith
  bounded first last _ := by
    have grown : 0 ≤ rate * ((last - first : Nat) : F) := mul_nonneg growing (Nat.cast_nonneg _)
    simp only [paid, List.filter_nil, List.map_nil, List.sum_nil]
    linarith

/-- Time passes and something is paid, or nothing (`costs` is empty). -/
theorem Metered.pay (metered : Metered rate burst log clock level) (growing : 0 ≤ rate)
    (later : clock ≤ now) (owed : 0 ≤ costs.sum) (solvent : 0 ≤ left)
    (afford : left + costs.sum ≤ level + rate * ((now - clock : Nat) : F))
    (small : left + costs.sum ≤ burst) : Metered rate burst (log ++ payNow now costs) now left := by
  have past : ∀ payment ∈ log ++ payNow now costs, payment.1 ≤ now :=
    past_payNow metered.past later
  have funded : ∀ first ≤ now, Funded rate burst first (log ++ payNow now costs) now left := by
    intro first started
    rcases Nat.lt_or_ge clock first with fresh | earlier
    · have grown : 0 ≤ rate * ((now - first : Nat) : F) := mul_nonneg growing (Nat.cast_nonneg _)
      have none : paid log first now = 0 :=
        paid_of_later fun payment listed => (metered.past payment listed).trans_lt fresh
      rw [Funded, paid_append, none, paid_payNow, if_pos ⟨started, le_rfl⟩]
      linarith
    · exact (metered.funded first earlier).pay earlier later metered.past afford
  refine ⟨past, by linarith, funded, fun first last ordered => ?_⟩
  have grown : 0 ≤ rate * ((last - first : Nat) : F) := mul_nonneg growing (Nat.cast_nonneg _)
  rcases Nat.lt_or_ge last now with before | reached
  · rw [paid_before before]
    exact metered.bounded first last ordered
  · rcases Nat.lt_or_ge now first with ahead | started
    · rw [paid_of_later fun payment listed => (past payment listed).trans_lt ahead]
      linarith
    · exact (funded first started).bounded growing solvent past reached

end Nek0.Library
