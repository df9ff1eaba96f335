import Nek0.Guarantees.Coalescing
import Nek0.Library.Meter
import Nek0.Source.CommandTokens

/-!
# The rate of released commands

A refill settles the whole time since the last one at the rate of the mode that is in force then,
so time spent in degraded mode may be settled at the normal rate. Even so nothing is credited that
the normal rate would not have credited. The reserve of a budget is what a refill at the normal
rate would leave it.
-/

namespace Nek0.Guarantees

open Nek0.Source Nek0.Library
open Nek0.Source.CommandBudget (CAPACITY REFILL_PER_SEC Solvent)

/-- A budget with the time of its last call and the commands it released, each with its time. -/
structure TimedBudget where
  budget : CommandBudget
  clock : Instant
  released : List (Instant × Command)

namespace TimedBudget

def fresh (start : Instant) : TimedBudget := ⟨.new start, start, []⟩

/-- The time of a call is not before the one of the last call. -/
def step (s : TimedBudget) : BudgetOp → Option TimedBudget
  | .enqueue command => some { s with budget := s.budget.enqueue command }
  | .takeReady now =>
    if s.clock ≤ now then
      some {
        budget := (s.budget.takeReady now).2
        clock := now
        released := s.released ++ (s.budget.takeReady now).1.toList.map fun command => (now, command) }
    else none
  | .enterDegraded now =>
    if s.clock ≤ now then some { s with budget := s.budget.enterDegraded now, clock := now }
    else none

def payments (s : TimedBudget) : List (Nat × ℚ) :=
  s.released.map fun release => (release.1, release.2.floodCost)

/-- The flood cost of the commands released in an interval, both ends included. -/
def costBetween (s : TimedBudget) (first last : Instant) : ℚ := paid s.payments first last

/-- The balance after a refill at the normal rate. -/
def reserve (s : TimedBudget) : ℚ :=
  min (s.budget.tokens + REFILL_PER_SEC * seconds (s.clock - s.budget.lastRefill)) CAPACITY

theorem payments_takeReady (s : TimedBudget) (now : Instant) :
    (s.released ++ (s.budget.takeReady now).1.toList.map fun command => (now, command)).map
        (fun release => (release.1, release.2.floodCost)) =
      s.payments ++ payNow now (CommandBudget.costs (s.budget.takeReady now).1) := by
  simp [payments, payNow, CommandBudget.costs]

end TimedBudget

/-- Tokens for each nanosecond at the normal rate. -/
def normalRate : ℚ := REFILL_PER_SEC / 10 ^ 9

theorem normalRate_mul (n : Nat) : normalRate * (n : ℚ) = REFILL_PER_SEC * seconds n := by
  rw [normalRate, seconds, div_mul_eq_mul_div, mul_div_assoc]

/-- The budget is solvent, and its releases are paid out of the reserve. -/
structure PaidFor (s : TimedBudget) : Prop where
  solvent : Solvent s.budget
  settled : s.budget.lastRefill ≤ s.clock
  metered : Metered normalRate CAPACITY s.payments s.clock s.reserve

section PaidFor

variable {s t : TimedBudget} {now : Instant}

theorem paidFor_fresh (start : Instant) : PaidFor (.fresh start) where
  solvent := .new start
  settled := le_rfl
  metered := by
    have full : (TimedBudget.fresh start).reserve = CAPACITY := by
      simp [TimedBudget.reserve, TimedBudget.fresh, CommandBudget.new, seconds]
    rw [full]
    exact metered_nil _ _ _ (by norm_num [normalRate, REFILL_PER_SEC]) (by norm_num [CAPACITY])

/-- What has grown since the last call is in the reserve. -/
theorem grown_le_reserve (settled : s.budget.lastRefill ≤ s.clock) (later : s.clock ≤ now)
    {balance : ℚ} (small : balance ≤ CAPACITY)
    (grown : balance ≤
      s.budget.tokens + REFILL_PER_SEC * seconds (now - s.budget.lastRefill)) :
    balance ≤ s.reserve + normalRate * ((now - s.clock : Nat) : ℚ) := by
  have span : now - s.budget.lastRefill = (s.clock - s.budget.lastRefill) + (now - s.clock) := by
    rw [Nat.add_comm, Nat.sub_add_sub_cancel later settled]
  have elapsed : 0 ≤ REFILL_PER_SEC * seconds (now - s.clock) :=
    mul_nonneg (by norm_num [REFILL_PER_SEC]) (seconds_nonneg _)
  rw [span, seconds_add, mul_add] at grown
  rw [normalRate_mul, TimedBudget.reserve, ← min_add_add_right, le_min_iff]
  constructor <;> linarith

/-- A refill leaves at most what the normal rate would have. -/
theorem refill_le_normal (solvent : Solvent s.budget) (now : Instant) :
    (s.budget.refill now).tokens ≤
      s.budget.tokens + REFILL_PER_SEC * seconds (now - s.budget.lastRefill) := by
  have slower := (solvent.leaveDegraded now).rate_le
  have credited : seconds (now - s.budget.lastRefill) * (s.budget.leaveDegraded now).refillPerSec ≤
      seconds (now - s.budget.lastRefill) * REFILL_PER_SEC :=
    mul_le_mul_of_nonneg_left slower (seconds_nonneg _)
  rw [CommandBudget.refill_tokens solvent now, mul_comm REFILL_PER_SEC]
  exact (min_le_left _ _).trans (add_le_add_right credited _)

theorem paidFor_takeReady (paid : PaidFor s) (taken : s.step (.takeReady now) = some t) :
    PaidFor t := by
  simp only [TimedBudget.step, Option.ite_none_right_eq_some, Option.some.injEq] at taken
  obtain ⟨later, rfl⟩ := taken
  have settled := CommandBudget.refill_lastRefill (paid.settled.trans later)
  obtain ⟨balance, last, -⟩ := CommandBudget.takeReady_effects s.budget now
  have solvent : Solvent (s.budget.takeReady now).2 := paid.solvent.takeReady
  have refilled := paid.solvent.refill now
  have small : (s.budget.refill now).tokens ≤ CAPACITY :=
    refilled.within.trans refilled.capacity_le
  have left : min ((s.budget.takeReady now).2.tokens +
      REFILL_PER_SEC * seconds (now - (s.budget.takeReady now).2.lastRefill)) CAPACITY =
        (s.budget.takeReady now).2.tokens := by
    have within := solvent.within.trans solvent.capacity_le
    rw [last, settled]
    simp [seconds, within]
  refine ⟨solvent, (last.trans settled).le, ?_⟩
  rw [TimedBudget.payments, TimedBudget.payments_takeReady, TimedBudget.reserve, left]
  refine paid.metered.pay (by norm_num [normalRate, REFILL_PER_SEC]) later
    (CommandBudget.costs_nonneg _) solvent.nonneg ?_ (balance ▸ small)
  rw [balance]
  exact grown_le_reserve paid.settled later small (refill_le_normal paid.solvent now)

theorem paidFor_enterDegraded (paid : PaidFor s) (taken : s.step (.enterDegraded now) = some t) :
    PaidFor t := by
  simp only [TimedBudget.step, Option.ite_none_right_eq_some, Option.some.injEq] at taken
  obtain ⟨later, rfl⟩ := taken
  have settled := paid.settled.trans later
  have earned : 0 ≤ REFILL_PER_SEC * seconds (now - s.budget.lastRefill) :=
    mul_nonneg (by norm_num [REFILL_PER_SEC]) (seconds_nonneg _)
  let left := min (0 + REFILL_PER_SEC * seconds (now - s.budget.lastRefill)) CAPACITY
  have small : left ≤ CAPACITY := min_le_right _ _
  have grown : left ≤
      s.budget.tokens + REFILL_PER_SEC * seconds (now - s.budget.lastRefill) :=
    (min_le_left _ _).trans (add_le_add_left paid.solvent.nonneg _)
  have nonneg : 0 ≤ left := le_min (by simpa using earned) (by norm_num [CAPACITY])
  have metered : Metered normalRate CAPACITY (s.payments ++ payNow now []) now left :=
    paid.metered.pay (by norm_num [normalRate, REFILL_PER_SEC]) later (by simp) nonneg
      (by simpa using grown_le_reserve paid.settled later small grown) (by simpa using small)
  refine ⟨.enterDegraded, settled, ?_⟩
  rw [payNow, List.map_nil, List.append_nil] at metered
  exact metered

theorem paidFor_enqueue (paid : PaidFor s) {command : Command}
    (taken : s.step (.enqueue command) = some t) : PaidFor t := by
  obtain rfl := Option.some.inj taken
  obtain ⟨tokens, last, -⟩ := CommandBudget.enqueue_effects s.budget command
  have same : TimedBudget.reserve { s with budget := s.budget.enqueue command } = s.reserve := by
    simp only [TimedBudget.reserve, tokens, last]
  refine ⟨paid.solvent.enqueue command, last ▸ paid.settled, ?_⟩
  rw [same]
  exact paid.metered

theorem paidFor_step {op : BudgetOp} (paid : PaidFor s) (taken : s.step op = some t) :
    PaidFor t := by
  cases op with
  | enqueue command => exact paidFor_enqueue paid taken
  | takeReady now => exact paidFor_takeReady paid taken
  | enterDegraded now => exact paidFor_enterDegraded paid taken

end PaidFor

/-- Whatever is asked of a budget and when, the flood cost released in an interval is bounded by
its length, and the balance stays within the capacity in force. -/
theorem flood_rate_bounded (start : Instant) (ops : List BudgetOp) (s : TimedBudget)
    (run : Run TimedBudget.step anyStep (.fresh start) ops s) :
    (∀ first last, first ≤ last →
      s.costBetween first last ≤ CAPACITY + REFILL_PER_SEC * seconds (last - first)) ∧
      0 ≤ s.budget.tokens ∧ s.budget.tokens ≤ s.budget.capacity := by
  have paid := run.invariant PaidFor (paidFor_fresh start)
    fun _ _ _ paid _ taken => paidFor_step paid taken
  refine ⟨fun first last ordered => ?_, paid.solvent.nonneg, paid.solvent.within⟩
  rw [← normalRate_mul]
  exact paid.metered.bounded first last ordered

/-- Five pokes: four at once, the fifth a second later. -/
def pokes : List BudgetOp :=
  List.replicate 5 (.enqueue (.pokeClient 7 "hello")) ++ List.replicate 5 (.takeReady 0) ++
    [.takeReady (10 ^ 9)]

theorem pokes_within_rate :
    ∃ s, Run TimedBudget.step anyStep (.fresh 0) pokes s ∧ s.costBetween 0 (10 ^ 9) = 10 ∧
      s.costBetween 0 (10 ^ 9) ≤ CAPACITY + REFILL_PER_SEC * seconds (10 ^ 9 - 0) := by
  obtain ⟨s, run, released⟩ := reaches_of_exec anyStep (fun _ _ _ => trivial) (show
    (exec TimedBudget.step (.fresh 0) pokes).any (fun s => s.costBetween 0 (10 ^ 9) = 10) = true by
    decide +kernel)
  exact ⟨s, run, of_decide_eq_true released,
    (flood_rate_bounded 0 pokes s run).1 0 (10 ^ 9) (Nat.zero_le _)⟩

end Nek0.Guarantees
