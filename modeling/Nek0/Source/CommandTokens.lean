import Mathlib.Tactic.Linarith
import Mathlib.Tactic.NormNum
import Mathlib.Tactic.Positivity
import Nek0.Source.CommandBudget

/-!
# Tokens of the command budget

What the operations of `CommandBudget` do to the token balance. A budget is in the normal or in
the degraded mode, and its balance never leaves the range of the mode (`Solvent`).
-/

namespace Nek0.Source

/-- A number of nanoseconds in seconds, `as_secs_f32`. -/
def seconds (nanoseconds : Nat) : ℚ := (nanoseconds : ℚ) / 10 ^ 9

theorem seconds_nonneg (n : Nat) : 0 ≤ seconds n :=
  div_nonneg (Nat.cast_nonneg n) (by norm_num)

theorem seconds_add (m n : Nat) : seconds (m + n) = seconds m + seconds n := by
  simp only [seconds, Nat.cast_add, add_div]

theorem seconds_mono {m n : Nat} (fewer : m ≤ n) : seconds m ≤ seconds n :=
  div_le_div_of_nonneg_right (Nat.cast_le.mpr fewer) (by norm_num)

theorem Command.floodCost_nonneg (c : Command) : 0 ≤ c.floodCost := by
  cases c <;> norm_num [Command.floodCost]

namespace CommandBudget

/-- The settings are the ones of a mode, and the balance is within the capacity. -/
structure Solvent (b : CommandBudget) : Prop where
  mode : b.degradedUntil = none ∧ b.capacity = CAPACITY ∧ b.refillPerSec = REFILL_PER_SEC ∨
    b.degradedUntil.isSome = true ∧ b.capacity = DEGRADED_CAPACITY ∧
      b.refillPerSec = DEGRADED_REFILL_PER_SEC
  nonneg : 0 ≤ b.tokens
  within : b.tokens ≤ b.capacity

namespace Solvent

variable {b : CommandBudget} {now : Instant}

theorem capacity_le (solvent : Solvent b) : b.capacity ≤ CAPACITY := by
  rcases solvent.mode with ⟨-, capacity, -⟩ | ⟨-, capacity, -⟩
  · norm_num [capacity, CAPACITY, DEGRADED_CAPACITY]
  · norm_num [capacity, CAPACITY, DEGRADED_CAPACITY]

theorem degraded_le_capacity (solvent : Solvent b) : DEGRADED_CAPACITY ≤ b.capacity := by
  rcases solvent.mode with ⟨-, capacity, -⟩ | ⟨-, capacity, -⟩
  · norm_num [capacity, CAPACITY, DEGRADED_CAPACITY]
  · norm_num [capacity, CAPACITY, DEGRADED_CAPACITY]

theorem rate_le (solvent : Solvent b) : b.refillPerSec ≤ REFILL_PER_SEC := by
  rcases solvent.mode with ⟨-, -, rate⟩ | ⟨-, -, rate⟩
  · norm_num [rate, REFILL_PER_SEC, DEGRADED_REFILL_PER_SEC]
  · norm_num [rate, REFILL_PER_SEC, DEGRADED_REFILL_PER_SEC]

theorem degraded_le_rate (solvent : Solvent b) : DEGRADED_REFILL_PER_SEC ≤ b.refillPerSec := by
  rcases solvent.mode with ⟨-, -, rate⟩ | ⟨-, -, rate⟩
  · norm_num [rate, REFILL_PER_SEC, DEGRADED_REFILL_PER_SEC]
  · norm_num [rate, REFILL_PER_SEC, DEGRADED_REFILL_PER_SEC]

theorem new (start : Instant) : Solvent (CommandBudget.new start) where
  mode := .inl ⟨rfl, rfl, rfl⟩
  nonneg := by simp [CommandBudget.new, CAPACITY]
  within := le_rfl

theorem enterDegraded : Solvent (b.enterDegraded now) where
  mode := .inr ⟨rfl, rfl, rfl⟩
  nonneg := le_rfl
  within := by simp [CommandBudget.enterDegraded, DEGRADED_CAPACITY]

theorem leaveDegraded (solvent : Solvent b) (now : Instant) : Solvent (b.leaveDegraded now) := by
  unfold CommandBudget.leaveDegraded
  split
  · split
    · exact ⟨.inl ⟨rfl, rfl, rfl⟩, solvent.nonneg, solvent.within.trans solvent.capacity_le⟩
    · exact solvent
  · exact solvent

end Solvent

section Refill

variable {b : CommandBudget}

@[simp] theorem leaveDegraded_tokens (b : CommandBudget) (now : Instant) :
    (b.leaveDegraded now).tokens = b.tokens := by
  unfold leaveDegraded
  split
  · split <;> rfl
  · rfl

@[simp] theorem leaveDegraded_lastRefill (b : CommandBudget) (now : Instant) :
    (b.leaveDegraded now).lastRefill = b.lastRefill := by
  unfold leaveDegraded
  split
  · split <;> rfl
  · rfl

/-- A refill settles the time since the last one in the mode that is in force now. -/
theorem refill_tokens (solvent : Solvent b) (now : Instant) :
    (b.refill now).tokens = min
      (b.tokens + seconds (now - b.lastRefill) * (b.leaveDegraded now).refillPerSec)
      (b.leaveDegraded now).capacity := by
  have within := (solvent.leaveDegraded now).within
  simp only [leaveDegraded_tokens] at within
  unfold refill
  simp only [leaveDegraded_lastRefill, leaveDegraded_tokens]
  split
  next settled =>
    rw [settled, leaveDegraded_tokens]
    simp [seconds, within]
  · rfl

theorem refill_mode (b : CommandBudget) (now : Instant) :
    (b.refill now).degradedUntil = (b.leaveDegraded now).degradedUntil ∧
      (b.refill now).capacity = (b.leaveDegraded now).capacity ∧
      (b.refill now).refillPerSec = (b.leaveDegraded now).refillPerSec := by
  unfold refill
  dsimp only
  split <;> exact ⟨rfl, rfl, rfl⟩

theorem refill_lastRefill {now : Instant} (later : b.lastRefill ≤ now) :
    (b.refill now).lastRefill = now := by
  unfold refill
  simp only [leaveDegraded_lastRefill]
  split
  next settled =>
    rw [leaveDegraded_lastRefill]
    exact Nat.le_antisymm later (Nat.sub_eq_zero_iff_le.mp settled)
  · rfl

theorem Solvent.refill (solvent : Solvent b) (now : Instant) : Solvent (b.refill now) := by
  obtain ⟨deadline, capacity, rate⟩ := refill_mode b now
  have left := solvent.leaveDegraded now
  have earned : 0 ≤ seconds (now - b.lastRefill) * (b.leaveDegraded now).refillPerSec := by
    have positive : 0 ≤ DEGRADED_REFILL_PER_SEC := by norm_num [DEGRADED_REFILL_PER_SEC]
    exact mul_nonneg (seconds_nonneg _) (positive.trans left.degraded_le_rate)
  have balance := refill_tokens solvent now
  constructor
  · rw [deadline, capacity, rate]
    exact left.mode
  · rw [balance, le_min_iff]
    exact ⟨add_nonneg solvent.nonneg earned, left.nonneg.trans left.within⟩
  · rw [balance, capacity]
    exact min_le_right ..

end Refill

section TakeReady

variable {b : CommandBudget} {now : Instant}

/-- What a call of `takeReady` pays for. -/
def costs (released : Option Command) : List ℚ := released.toList.map Command.floodCost

theorem costs_nonneg (released : Option Command) : 0 ≤ (costs released).sum := by
  cases released with
  | none => simp [costs]
  | some command => simpa [costs] using command.floodCost_nonneg

/-- `takeReady` refills the budget and pays for the command. -/
theorem takeReady_effects (b : CommandBudget) (now : Instant) :
    (b.takeReady now).2.tokens + (costs (b.takeReady now).1).sum = (b.refill now).tokens ∧
      (b.takeReady now).2.lastRefill = (b.refill now).lastRefill ∧
      (b.takeReady now).2.degradedUntil = (b.refill now).degradedUntil ∧
      (b.takeReady now).2.capacity = (b.refill now).capacity ∧
      (b.takeReady now).2.refillPerSec = (b.refill now).refillPerSec := by
  unfold takeReady
  dsimp only
  split
  · simp [costs]
  · split <;> simp [costs]

theorem takeReady_of_afford {command : Command} {rest : List Command}
    (queue : b.queue = command :: rest) (afford : command.floodCost ≤ (b.refill now).tokens) :
    b.takeReady now = (some command,
      { b.refill now with
        tokens := (b.refill now).tokens - command.floodCost, queue := rest }) := by
  simp [takeReady, queue, not_lt.mpr afford]

theorem takeReady_tokens_nonneg (solvent : Solvent b) : 0 ≤ (b.takeReady now).2.tokens := by
  have nonneg := (solvent.refill now).nonneg
  unfold takeReady
  dsimp only
  split
  · exact nonneg
  · split
    · exact nonneg
    · next afford => exact sub_nonneg.mpr (not_lt.mp afford)

theorem Solvent.takeReady (solvent : Solvent b) : Solvent (b.takeReady now).2 := by
  obtain ⟨balance, -, deadline, capacity, rate⟩ := takeReady_effects b now
  have refilled := solvent.refill now
  constructor
  · rw [deadline, capacity, rate]
    exact refilled.mode
  · exact takeReady_tokens_nonneg solvent
  · rw [capacity]
    have within := refilled.within
    have owed := costs_nonneg (b.takeReady now).1
    linarith

theorem enqueue_effects (b : CommandBudget) (command : Command) :
    (b.enqueue command).tokens = b.tokens ∧
      (b.enqueue command).lastRefill = b.lastRefill ∧
      (b.enqueue command).degradedUntil = b.degradedUntil ∧
      (b.enqueue command).capacity = b.capacity ∧
      (b.enqueue command).refillPerSec = b.refillPerSec := by
  unfold enqueue
  split
  · exact ⟨rfl, rfl, rfl, rfl, rfl⟩
  · split <;> exact ⟨rfl, rfl, rfl, rfl, rfl⟩

theorem Solvent.enqueue (solvent : Solvent b) (command : Command) :
    Solvent (b.enqueue command) := by
  obtain ⟨tokens, -, deadline, capacity, rate⟩ := enqueue_effects b command
  exact ⟨by rw [deadline, capacity, rate]; exact solvent.mode, tokens ▸ solvent.nonneg,
    by rw [tokens, capacity]; exact solvent.within⟩

end TakeReady

end CommandBudget

end Nek0.Source
