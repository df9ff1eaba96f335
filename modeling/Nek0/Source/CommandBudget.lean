import Mathlib.Algebra.Order.Field.Rat
import Nek0.Library.Coalesce
import Nek0.Source.Command

/-!
# Command budget

`CommandBudget` of `native/src/lib.rs`: a token bucket in front of the command
channel with a bounded queue of pending commands. Instants count nanoseconds, so
`saturating_duration_since` is the subtraction of natural numbers. Token
arithmetic is exact here, where the source uses `f32`.
-/

namespace Nek0.Source

/-- Nanoseconds on the monotonic clock. -/
abbrev Instant := Nat

structure CommandBudget where
  tokens : ℚ
  capacity : ℚ
  refillPerSec : ℚ
  lastRefill : Instant
  /-- While set, the budget runs in degraded mode after the server complained
  about flooding. -/
  degradedUntil : Option Instant
  queue : List Command
  /-- Commands dropped because the queue was full. -/
  dropped : UInt64
  deriving Repr

namespace CommandBudget

def CAPACITY : ℚ := 8
def REFILL_PER_SEC : ℚ := 3
def DEGRADED_CAPACITY : ℚ := 2
def DEGRADED_REFILL_PER_SEC : ℚ := 1 / 2
def DEGRADED_DURATION : Nat := 30 * 10 ^ 9
def MAX_QUEUE : Nat := 32

def new (now : Instant) : CommandBudget where
  tokens := CAPACITY
  capacity := CAPACITY
  refillPerSec := REFILL_PER_SEC
  lastRefill := now
  degradedUntil := none
  queue := []
  dropped := 0

def pending (self : CommandBudget) : Nat := self.queue.length

def isDegraded (self : CommandBudget) : Bool := self.degradedUntil.isSome

/-- Slows the budget down after the server reported flooding, and drops the
current token balance so that the next command waits. -/
def enterDegraded (self : CommandBudget) (now : Instant) : CommandBudget :=
  { self with
    degradedUntil := some (now + DEGRADED_DURATION)
    capacity := DEGRADED_CAPACITY
    refillPerSec := DEGRADED_REFILL_PER_SEC
    tokens := 0 }

/-- Leaves degraded mode once its time is over. -/
def leaveDegraded (self : CommandBudget) (now : Instant) : CommandBudget :=
  match self.degradedUntil with
  | some deadline =>
    if deadline ≤ now then
      { self with degradedUntil := none, capacity := CAPACITY, refillPerSec := REFILL_PER_SEC }
    else self
  | none => self

def refill (self : CommandBudget) (now : Instant) : CommandBudget :=
  let budget := self.leaveDegraded now
  let elapsed := now - budget.lastRefill
  if elapsed = 0 then budget
  else
    { budget with
      lastRefill := now
      tokens := min (budget.tokens + (elapsed : ℚ) / 10 ^ 9 * budget.refillPerSec) budget.capacity }

/-- Queues a command, replacing the first superseded one where there is one. A
full queue loses its oldest command. -/
def enqueue (self : CommandBudget) (command : Command) : CommandBudget :=
  match self.queue.findIdx? command.supersedes with
  | some slot => { self with queue := self.queue.set slot command }
  | none =>
    if MAX_QUEUE ≤ self.queue.length then
      { self with queue := self.queue.tail ++ [command], dropped := self.dropped + 1 }
    else { self with queue := self.queue ++ [command] }

/-- The next command the budget can afford, and the budget after paying for it. -/
def takeReady (self : CommandBudget) (now : Instant) : Option Command × CommandBudget :=
  let budget := self.refill now
  match budget.queue with
  | [] => (none, budget)
  | command :: rest =>
    if budget.tokens < command.floodCost then (none, budget)
    else (some command, { budget with tokens := budget.tokens - command.floodCost, queue := rest })

@[simp] theorem enterDegraded_queue (b : CommandBudget) (now : Instant) :
    (b.enterDegraded now).queue = b.queue := rfl

@[simp] theorem leaveDegraded_queue (b : CommandBudget) (now : Instant) :
    (b.leaveDegraded now).queue = b.queue := by
  unfold leaveDegraded
  split
  · split <;> rfl
  · rfl

@[simp] theorem refill_queue (b : CommandBudget) (now : Instant) :
    (b.refill now).queue = b.queue := by
  unfold refill
  dsimp only
  split <;> simp

/-- Taking a command splits it off the front of the queue; otherwise the queue
stays as it is. -/
theorem takeReady_queue (b : CommandBudget) (now : Instant) :
    b.queue = (b.takeReady now).1.toList ++ (b.takeReady now).2.queue := by
  rw [← refill_queue b now]
  unfold takeReady
  dsimp only
  split
  next h => rw [h]; rfl
  next command rest h =>
    split
    · simp
    · rw [h]; rfl

/-- Only `enqueue` loses commands. -/
theorem takeReady_dropped (b : CommandBudget) (now : Instant) :
    (b.takeReady now).2.dropped = b.dropped := by
  have left : (b.leaveDegraded now).dropped = b.dropped := by
    unfold leaveDegraded
    split
    · split <;> rfl
    · rfl
  have refilled : (b.refill now).dropped = b.dropped := by
    unfold refill
    dsimp only
    split <;> exact left
  unfold takeReady
  dsimp only
  split
  · exact refilled
  · split <;> exact refilled

/-- Every way in which a command can enter the queue. -/
theorem enqueue_cases (b : CommandBudget) (c : Command) :
    (∃ older old between, b.queue = older ++ old :: between ∧ c.supersedes old = true ∧
      b.queue.findIdx? c.supersedes = some older.length ∧
      (b.enqueue c).queue = older ++ c :: between) ∨
    (b.queue.findIdx? c.supersedes = none ∧ MAX_QUEUE ≤ b.queue.length ∧
      (b.enqueue c).queue = b.queue.tail ++ [c]) ∨
    (b.queue.findIdx? c.supersedes = none ∧ b.queue.length < MAX_QUEUE ∧
      (b.enqueue c).queue = b.queue ++ [c]) := by
  cases found : b.queue.findIdx? c.supersedes with
  | some slot =>
    obtain ⟨older, old, between, split, rfl, accepted⟩ := Library.split_of_findIdx? found
    refine .inl ⟨older, old, between, split, accepted, rfl, ?_⟩
    simp only [enqueue, found]
    rw [split]
    simp
  | none =>
    right
    by_cases full : MAX_QUEUE ≤ b.queue.length
    · exact .inl ⟨rfl, full, by simp [enqueue, found, full]⟩
    · exact .inr ⟨rfl, by omega, by simp [enqueue, found, full]⟩

end CommandBudget

end Nek0.Source
