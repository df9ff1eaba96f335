import Mathlib.Tactic.Ring
import Nek0.Guarantees.FloodRate

/-!
# Degraded mode

Entering degraded mode drops the balance but does not settle the time since the last refill. The
next refill credits that time once more, at the degraded rate, so the budget is slowed down from
the moment it enters only if it was refilled at that moment. Slowed down or not, four seconds are
always enough for the next command.
-/

namespace Nek0.Guarantees

open Nek0.Source Nek0.Library
open Nek0.Source.CommandBudget (DEGRADED_CAPACITY DEGRADED_REFILL_PER_SEC DEGRADED_DURATION Solvent)

/-- The budget after it has entered degraded mode; its releases are counted from there. -/
def entered (b : CommandBudget) (now : Instant) : TimedBudget := ⟨b.enterDegraded now, now, []⟩

/-- Whatever follows, up to the end of the penalty the releases keep to the degraded rate, counted
from the moment the mode was entered. -/
def SlowsDown (b : CommandBudget) (now : Instant) : Prop :=
  ∀ ops s, Run TimedBudget.step anyStep (entered b now) ops s → ∀ last, now ≤ last →
    last < now + DEGRADED_DURATION →
      s.costBetween now last ≤ DEGRADED_REFILL_PER_SEC * seconds (last - now)

/-- Tokens for each nanosecond at the degraded rate. -/
def degradedRate : ℚ := DEGRADED_REFILL_PER_SEC / 10 ^ 9

theorem degradedRate_mul (n : Nat) :
    degradedRate * (n : ℚ) = DEGRADED_REFILL_PER_SEC * seconds n := by
  rw [degradedRate, seconds, div_mul_eq_mul_div, mul_div_assoc]

/-- The balance after a refill at the degraded rate, without the cap. -/
def slowReserve (s : TimedBudget) : ℚ :=
  s.budget.tokens + DEGRADED_REFILL_PER_SEC * seconds (s.clock - s.budget.lastRefill)

/-- The budget is in degraded mode until the moment or longer. -/
structure DegradedUntil (b : CommandBudget) (moment : Instant) : Prop where
  deadline : ∃ deadline, b.degradedUntil = some deadline ∧ moment ≤ deadline
  capacity : b.capacity = DEGRADED_CAPACITY
  rate : b.refillPerSec = DEGRADED_REFILL_PER_SEC

theorem DegradedUntil.leaveDegraded {b : CommandBudget} {moment now : Instant}
    (degraded : DegradedUntil b moment) (early : now < moment) : b.leaveDegraded now = b := by
  obtain ⟨deadline, armed, later⟩ := degraded.deadline
  have waits : ¬ deadline ≤ now := Nat.not_le.mpr (early.trans_le later)
  simp [CommandBudget.leaveDegraded, armed, waits]

/-- A budget that was refilled when it entered degraded mode at the moment `start`. -/
structure Slowed (start : Instant) (s : TimedBudget) : Prop where
  solvent : Solvent s.budget
  settled : s.budget.lastRefill ≤ s.clock
  started : start ≤ s.clock
  past : ∀ payment ∈ s.payments, payment.1 ≤ s.clock
  degraded : s.clock < start + DEGRADED_DURATION →
    DegradedUntil s.budget (start + DEGRADED_DURATION) ∧
      Funded degradedRate 0 start s.payments s.clock (slowReserve s)
  bounded : ∀ last, start ≤ last → last < start + DEGRADED_DURATION →
    paid s.payments start last ≤ degradedRate * ((last - start : Nat) : ℚ)

section Slowed

variable {s t : TimedBudget} {start now : Instant}

theorem slowed_entered {b : CommandBudget} (refilled : b.lastRefill = start) :
    Slowed start (entered b start) where
  solvent := .enterDegraded
  settled := refilled.le
  started := le_rfl
  past payment listed := by cases listed
  degraded _ := by
    refine ⟨⟨⟨_, rfl, le_rfl⟩, rfl, rfl⟩, ?_⟩
    subst refilled
    simp [Funded, slowReserve, entered, paid, TimedBudget.payments, seconds,
      CommandBudget.enterDegraded]
  bounded last _ _ := by
    have growing : 0 ≤ degradedRate := by norm_num [degradedRate, DEGRADED_REFILL_PER_SEC]
    exact mul_nonneg growing (Nat.cast_nonneg _)

theorem slowReserve_nonneg (solvent : Solvent s.budget) : 0 ≤ slowReserve s :=
  add_nonneg solvent.nonneg
    (mul_nonneg (by norm_num [DEGRADED_REFILL_PER_SEC]) (seconds_nonneg _))

/-- The reserve grows at the degraded rate. -/
theorem slowReserve_grown (settled : s.budget.lastRefill ≤ s.clock) (later : s.clock ≤ now) :
    s.budget.tokens + DEGRADED_REFILL_PER_SEC * seconds (now - s.budget.lastRefill) =
      slowReserve s + degradedRate * ((now - s.clock : Nat) : ℚ) := by
  have span : now - s.budget.lastRefill = (s.clock - s.budget.lastRefill) + (now - s.clock) := by
    rw [Nat.add_comm, Nat.sub_add_sub_cancel later settled]
  rw [span, seconds_add, degradedRate_mul, slowReserve, mul_add, add_assoc]

theorem slowed_takeReady (slowed : Slowed start s) (taken : s.step (.takeReady now) = some t) :
    Slowed start t := by
  simp only [TimedBudget.step, Option.ite_none_right_eq_some, Option.some.injEq] at taken
  obtain ⟨later, rfl⟩ := taken
  have settled := CommandBudget.refill_lastRefill (slowed.settled.trans later)
  obtain ⟨balance, last, deadline, capacity, rate⟩ :=
    CommandBudget.takeReady_effects s.budget now
  obtain ⟨refilledDeadline, refilledCapacity, refilledRate⟩ :=
    CommandBudget.refill_mode s.budget now
  have solvent : Solvent (s.budget.takeReady now).2 := slowed.solvent.takeReady
  have growing : 0 ≤ degradedRate := by norm_num [degradedRate, DEGRADED_REFILL_PER_SEC]
  let after : TimedBudget := ⟨(s.budget.takeReady now).2, now,
    s.released ++ (s.budget.takeReady now).1.toList.map fun command => (now, command)⟩
  have payments : after.payments =
      s.payments ++ payNow now (CommandBudget.costs (s.budget.takeReady now).1) :=
    s.payments_takeReady now
  have left : slowReserve after = (s.budget.takeReady now).2.tokens := by
    have refilled : (s.budget.takeReady now).2.lastRefill = now := last.trans settled
    simp [slowReserve, after, refilled, seconds]
  have past : ∀ payment ∈ after.payments, payment.1 ≤ now :=
    payments ▸ past_payNow slowed.past later
  have degraded : now < start + DEGRADED_DURATION →
      DegradedUntil (s.budget.takeReady now).2 (start + DEGRADED_DURATION) ∧
        Funded degradedRate 0 start after.payments now (slowReserve after) := by
    intro early
    obtain ⟨before, funded⟩ := slowed.degraded (later.trans_lt early)
    have stays := before.leaveDegraded early
    rw [stays] at refilledDeadline refilledCapacity refilledRate
    refine ⟨⟨?_, ?_, ?_⟩, ?_⟩
    · rw [deadline, refilledDeadline]
      exact before.deadline
    · rw [capacity, refilledCapacity, before.capacity]
    · rw [rate, refilledRate, before.rate]
    · rw [payments, left]
      refine funded.pay slowed.started later slowed.past ?_
      rw [balance, ← slowReserve_grown slowed.settled later,
        CommandBudget.refill_tokens slowed.solvent now, stays, before.rate,
        mul_comm (seconds _)]
      exact min_le_left _ _
  refine ⟨solvent, (last.trans settled).le, slowed.started.trans later, past, degraded,
    fun last ordered early => ?_⟩
  rcases Nat.lt_or_ge last now with ended | reached
  · have same : paid after.payments start last = paid s.payments start last := by
      rw [payments]
      exact paid_before ended
    exact same.trans_le (slowed.bounded last ordered early)
  · have funded := (degraded (reached.trans_lt early)).2
    have total := funded.bounded growing (slowReserve_nonneg solvent) past reached
    rwa [zero_add] at total

theorem slowed_enterDegraded (slowed : Slowed start s)
    (taken : s.step (.enterDegraded now) = some t) : Slowed start t := by
  simp only [TimedBudget.step, Option.ite_none_right_eq_some, Option.some.injEq] at taken
  obtain ⟨later, rfl⟩ := taken
  refine ⟨.enterDegraded, slowed.settled.trans later, slowed.started.trans later,
    fun payment listed => (slowed.past payment listed).trans later, fun early => ?_,
    slowed.bounded⟩
  have funded := (slowed.degraded (later.trans_lt early)).2
  have deadline : start + DEGRADED_DURATION ≤ now + DEGRADED_DURATION :=
    Nat.add_le_add_right (slowed.started.trans later) _
  refine ⟨⟨⟨_, rfl, deadline⟩, rfl, rfl⟩, ?_⟩
  have dropped : 0 + DEGRADED_REFILL_PER_SEC * seconds (now - s.budget.lastRefill) ≤
      s.budget.tokens + DEGRADED_REFILL_PER_SEC * seconds (now - s.budget.lastRefill) :=
    add_le_add_left slowed.solvent.nonneg _
  rw [slowReserve_grown slowed.settled later] at dropped
  let after : TimedBudget := { s with budget := s.budget.enterDegraded now, clock := now }
  have left : slowReserve after =
      0 + DEGRADED_REFILL_PER_SEC * seconds (now - s.budget.lastRefill) := rfl
  have paid : Funded degradedRate 0 start (s.payments ++ payNow now []) now (slowReserve after) :=
    funded.pay slowed.started later slowed.past (by simpa [left] using dropped)
  rw [payNow, List.map_nil, List.append_nil] at paid
  exact paid

theorem slowed_enqueue {command : Command} (slowed : Slowed start s)
    (taken : s.step (.enqueue command) = some t) : Slowed start t := by
  obtain rfl := Option.some.inj taken
  obtain ⟨tokens, last, deadline, capacity, rate⟩ := CommandBudget.enqueue_effects s.budget command
  refine ⟨slowed.solvent.enqueue command, last ▸ slowed.settled, slowed.started, slowed.past,
    fun early => ?_, slowed.bounded⟩
  obtain ⟨degraded, funded⟩ := slowed.degraded early
  refine ⟨⟨deadline ▸ degraded.deadline, capacity ▸ degraded.capacity, rate ▸ degraded.rate⟩, ?_⟩
  have same : slowReserve { s with budget := s.budget.enqueue command } = slowReserve s := by
    simp only [slowReserve, tokens, last]
  rw [same]
  exact funded

theorem slowed_step {op : BudgetOp} (slowed : Slowed start s) (taken : s.step op = some t) :
    Slowed start t := by
  cases op with
  | enqueue command => exact slowed_enqueue slowed taken
  | takeReady now => exact slowed_takeReady slowed taken
  | enterDegraded now => exact slowed_enterDegraded slowed taken

theorem slowsDown_of_refilled {b : CommandBudget} (refilled : b.lastRefill = start) :
    SlowsDown b start := by
  intro ops s run last ordered early
  have slowed := run.invariant (Slowed start) (slowed_entered refilled)
    fun _ _ _ slowed _ taken => slowed_step slowed taken
  rw [← degradedRate_mul]
  exact slowed.bounded last ordered early

end Slowed

section Early

/-- Every command costs a number of half tokens, at most the four of a full degraded budget. -/
theorem floodCost_halves (c : Command) : ∃ n : Nat, n ≤ 4 ∧ c.floodCost = (n : ℚ) / 2 := by
  cases c with
  | sendAudio => exact ⟨0, by decide, by norm_num [Command.floodCost]⟩
  | disconnect => exact ⟨0, by decide, by norm_num [Command.floodCost]⟩
  | setMuted | setAway | setChannelCommander =>
    exact ⟨1, by decide, by norm_num [Command.floodCost]⟩
  | moveChannel => exact ⟨3, by decide, by norm_num [Command.floodCost]⟩
  | listBans | subscribeChannel | channelDescription | downloadFile | uploadFile | requestFileList
  | deleteFile | createDirectory | renameFile | fileInfoRequest | useToken =>
    exact ⟨2, by decide, by norm_num [Command.floodCost]⟩
  | _ => exact ⟨4, by decide, by norm_num [Command.floodCost]⟩

/-- What one nanosecond in degraded mode earns. -/
def smallest : ℚ := DEGRADED_REFILL_PER_SEC * seconds 1

/-- A budget in degraded mode with something to credit at the moment `start`. -/
structure Early (start : Instant) (s : TimedBudget) : Prop where
  clock : s.clock = start
  settled : s.budget.lastRefill ≤ start
  solvent : Solvent s.budget
  degraded : DegradedUntil s.budget (start + DEGRADED_DURATION)
  ahead : smallest ≤
    s.budget.tokens + DEGRADED_REFILL_PER_SEC * seconds (start - s.budget.lastRefill)

variable {s t : TimedBudget} {start last : Instant} {command : Command} {rest : List Command}

theorem refill_degraded (solvent : Solvent s.budget)
    (degraded : DegradedUntil s.budget (start + DEGRADED_DURATION))
    (within : last < start + DEGRADED_DURATION) :
    (s.budget.refill last).tokens = min (s.budget.tokens +
      DEGRADED_REFILL_PER_SEC * seconds (last - s.budget.lastRefill)) DEGRADED_CAPACITY := by
  rw [CommandBudget.refill_tokens solvent, degraded.leaveDegraded within, degraded.rate,
    degraded.capacity, mul_comm]

theorem payments_nonneg (s : TimedBudget) : ∀ payment ∈ s.payments, 0 ≤ payment.2 := by
  intro payment listed
  obtain ⟨release, -, rfl⟩ := List.mem_map.mp listed
  exact release.2.floodCost_nonneg

/-- The command at the front is released a nanosecond before its cost has been earned. -/
theorem early_release (early : Early start s) (queue : s.budget.queue = command :: rest)
    (priced : 0 < command.floodCost) :
    ∃ last t, s.step (.takeReady last) = some t ∧ start ≤ last ∧ last < start + DEGRADED_DURATION ∧
      DEGRADED_REFILL_PER_SEC * seconds (last - start) < t.costBetween start last := by
  obtain ⟨halves, few, cost⟩ := floodCost_halves command
  have some : 1 ≤ halves := by
    rcases Nat.eq_zero_or_pos halves with zero | positive
    · simp [cost, zero] at priced
    · exact positive
  let elapsed := halves * 10 ^ 9 - 1
  have earned : DEGRADED_REFILL_PER_SEC * seconds elapsed = command.floodCost - smallest := by
    have whole : ((elapsed : Nat) : ℚ) = halves * 10 ^ 9 - 1 := by
      have positive : 1 ≤ halves * 10 ^ 9 := by omega
      simp only [elapsed]
      rw [Nat.cast_sub positive]
      norm_num
    rw [cost, seconds, whole, smallest, seconds, DEGRADED_REFILL_PER_SEC]
    norm_num
    ring
  have within : start + elapsed < start + DEGRADED_DURATION := by
    have short : halves * 10 ^ 9 - 1 < 30 * 10 ^ 9 := by omega
    exact Nat.add_lt_add_left short start
  have span : start + elapsed - s.budget.lastRefill = (start - s.budget.lastRefill) + elapsed :=
    Nat.sub_add_comm early.settled
  have afford : command.floodCost ≤ (s.budget.refill (start + elapsed)).tokens := by
    rw [refill_degraded early.solvent early.degraded within, span, seconds_add, mul_add, earned,
      le_min_iff]
    constructor
    · linarith [early.ahead]
    · have most : (halves : ℚ) ≤ 4 := by exact_mod_cast few
      rw [cost, DEGRADED_CAPACITY]
      linarith
  have taken := CommandBudget.takeReady_of_afford queue afford
  refine ⟨start + elapsed, _, if_pos (early.clock.trans_le (Nat.le_add_right _ _)),
    Nat.le_add_right _ _, within, ?_⟩
  rw [TimedBudget.costBetween, TimedBudget.payments, TimedBudget.payments_takeReady, taken,
    paid_append, paid_payNow, if_pos ⟨Nat.le_add_right _ _, le_rfl⟩, Nat.add_sub_cancel_left,
    earned]
  have before : 0 ≤ paid s.payments start (start + elapsed) := paid_nonneg (payments_nonneg s)
  have positive : 0 < smallest := by norm_num [smallest, DEGRADED_REFILL_PER_SEC, seconds]
  simp only [CommandBudget.costs, Option.toList_some, List.map_cons, List.map_nil,
    List.sum_singleton]
  linarith

/-- A command that costs nothing is released at once, and there is still something to credit. -/
theorem early_pop (early : Early start s) (queue : s.budget.queue = command :: rest)
    (free : command.floodCost = 0) :
    ∃ t, s.step (.takeReady start) = some t ∧ t.budget.queue = rest ∧ Early start t := by
  have within : start < start + DEGRADED_DURATION := Nat.lt_add_of_pos_right (by decide)
  have balance := refill_degraded early.solvent early.degraded within
  have afford : command.floodCost ≤ (s.budget.refill start).tokens :=
    free ▸ (early.solvent.refill start).nonneg
  have taken := CommandBudget.takeReady_of_afford queue afford
  obtain ⟨deadline, capacity, rate⟩ := CommandBudget.refill_mode s.budget start
  rw [early.degraded.leaveDegraded within] at deadline capacity rate
  have settled := CommandBudget.refill_lastRefill early.settled
  refine ⟨_, if_pos early.clock.le, ?_, ?_⟩
  · rw [taken]
  · rw [taken]
    have solvent : Solvent (s.budget.takeReady start).2 := early.solvent.takeReady
    rw [taken] at solvent
    refine ⟨rfl, settled.le, solvent, ⟨?_, ?_, ?_⟩, ?_⟩
    · exact deadline ▸ early.degraded.deadline
    · exact capacity ▸ early.degraded.capacity
    · exact rate ▸ early.degraded.rate
    · have nothing : seconds (start - (s.budget.refill start).lastRefill) = 0 := by
        simp [settled, seconds]
      simp only [nothing, free, mul_zero, add_zero, sub_zero]
      rw [balance, le_min_iff]
      refine ⟨early.ahead, ?_⟩
      norm_num [smallest, DEGRADED_REFILL_PER_SEC, DEGRADED_CAPACITY, seconds]

/-- With a priced command in the queue some release comes too early. -/
theorem early_violates : ∀ (queue : List Command) {s : TimedBudget}, Early start s →
    s.budget.queue = queue → (∃ command ∈ queue, 0 < command.floodCost) →
    ∃ ops t last, Run TimedBudget.step anyStep s ops t ∧ start ≤ last ∧
      last < start + DEGRADED_DURATION ∧
      DEGRADED_REFILL_PER_SEC * seconds (last - start) < t.costBetween start last := by
  intro queue
  induction queue with
  | nil =>
    intro s _ _ priced
    obtain ⟨command, listed, -⟩ := priced
    cases listed
  | cons command rest ih =>
    intro s early front priced
    rcases command.floodCost_nonneg.eq_or_lt with free | costly
    · obtain ⟨t, taken, left, again⟩ := early_pop early front free.symm
      have behind : ∃ command ∈ rest, 0 < command.floodCost := by
        obtain ⟨other, listed, positive⟩ := priced
        rcases List.mem_cons.mp listed with same | later
        · rw [same, ← free] at positive
          exact absurd positive (lt_irrefl _)
        · exact ⟨other, later, positive⟩
      obtain ⟨ops, u, last, run, bounds⟩ := ih again left behind
      exact ⟨_ :: ops, u, last, .cons trivial taken run, bounds⟩
    · obtain ⟨last, t, taken, bounds⟩ := early_release early front costly
      exact ⟨[.takeReady last], t, last, .single trivial taken, bounds⟩

theorem poke_enqueued (b : CommandBudget) (clientId : UInt16) (message : String) :
    Command.pokeClient clientId message ∈ (b.enqueue (.pokeClient clientId message)).queue := by
  rcases b.enqueue_cases (.pokeClient clientId message) with
    ⟨older, old, between, -, -, -, queue⟩ | ⟨-, -, queue⟩ | ⟨-, -, queue⟩ <;> simp [queue]

theorem early_entered {b : CommandBudget} (idle : b.lastRefill < start) (command : Command) :
    Early start { entered b start with budget := (b.enterDegraded start).enqueue command } := by
  obtain ⟨tokens, last, deadline, capacity, rate⟩ :=
    CommandBudget.enqueue_effects (b.enterDegraded start) command
  have solvent : Solvent (b.enterDegraded start) := .enterDegraded
  refine ⟨rfl, last.trans_le idle.le, solvent.enqueue command, ⟨?_, capacity, rate⟩, ?_⟩
  · exact ⟨_, deadline, le_rfl⟩
  · have empty : (b.enterDegraded start).tokens = 0 := rfl
    have kept : (b.enterDegraded start).lastRefill = b.lastRefill := rfl
    have waited : 1 ≤ start - b.lastRefill := Nat.sub_pos_of_lt idle
    have earned := mul_le_mul_of_nonneg_left (seconds_mono waited)
      (show 0 ≤ DEGRADED_REFILL_PER_SEC by norm_num [DEGRADED_REFILL_PER_SEC])
    rw [tokens, last, empty, kept, zero_add]
    exact earned

end Early

/-- Entering degraded mode slows the budget down, whatever follows, exactly if it was refilled at
that very moment. -/
theorem slows_down_iff (b : CommandBudget) (now : Instant) (later : b.lastRefill ≤ now) :
    SlowsDown b now ↔ b.lastRefill = now := by
  refine ⟨fun slow => ?_, slowsDown_of_refilled⟩
  by_contra unsettled
  have idle : b.lastRefill < now := later.lt_of_ne unsettled
  have early := early_entered idle (.pokeClient 0 "")
  have waiting := poke_enqueued (b.enterDegraded now) 0 ""
  obtain ⟨ops, t, last, run, ordered, within, fast⟩ :=
    early_violates _ early rfl ⟨_, waiting, by norm_num [Command.floodCost]⟩
  have first : (entered b now).step (.enqueue (.pokeClient 0 "")) = some _ := rfl
  exact absurd fast (not_lt.mpr (slow _ t (.cons trivial first run) last ordered within))

theorem slows_down_when_refilled : SlowsDown (.new 5) 5 :=
  (slows_down_iff (.new 5) 5 le_rfl).mpr rfl

/-- After four idle seconds a mute goes out at the moment degraded mode is entered. -/
theorem idle_time_credited_twice :
    ¬ ∀ start ops t, Run Traffic.step anyStep (Traffic.fresh start) ops t →
      ∀ now, t.budget.lastRefill ≤ now → SlowsDown t.budget now := by
  intro slows
  have run : Run Traffic.step anyStep (Traffic.fresh 0) [.enqueue (.setMuted true false)]
      ((Traffic.fresh 0).after (.enqueue (.setMuted true false))) := .single trivial rfl
  have slow := slows 0 _ _ run (4 * 10 ^ 9) (Nat.zero_le _)
  obtain ⟨s, later, released⟩ := reaches_of_exec anyStep (fun _ _ _ => trivial) (show
    (exec TimedBudget.step (entered
        ((Traffic.fresh 0).after (.enqueue (.setMuted true false))).budget (4 * 10 ^ 9))
      [.takeReady (4 * 10 ^ 9)]).any (fun s =>
        s.costBetween (4 * 10 ^ 9) (4 * 10 ^ 9) = 1 / 2) = true by
    decide +kernel)
  have bound := slow _ s later (4 * 10 ^ 9) le_rfl (by decide)
  rw [of_decide_eq_true released] at bound
  norm_num [seconds] at bound

section Progress

variable {t : Traffic} {op : BudgetOp}

theorem solvent_after (solvent : Solvent t.budget) : Solvent (t.after op).budget := by
  cases op with
  | enqueue command => exact solvent.enqueue command
  | takeReady now => exact solvent.takeReady
  | enterDegraded now => exact .enterDegraded

theorem floodCost_le (c : Command) : c.floodCost ≤ DEGRADED_CAPACITY := by
  obtain ⟨halves, few, cost⟩ := floodCost_halves c
  have most : (halves : ℚ) ≤ 4 := by exact_mod_cast few
  rw [cost, DEGRADED_CAPACITY]
  linarith

/-- Four seconds fill the smaller bucket, in either mode. -/
theorem refill_fills {b : CommandBudget} (solvent : Solvent b) {now : Instant}
    (waited : 4 * 10 ^ 9 ≤ now - b.lastRefill) : DEGRADED_CAPACITY ≤ (b.refill now).tokens := by
  have left := solvent.leaveDegraded now
  have slow : 0 ≤ DEGRADED_REFILL_PER_SEC := by norm_num [DEGRADED_REFILL_PER_SEC]
  have earned : seconds (4 * 10 ^ 9) * DEGRADED_REFILL_PER_SEC ≤
      seconds (now - b.lastRefill) * (b.leaveDegraded now).refillPerSec :=
    mul_le_mul (seconds_mono waited) left.degraded_le_rate slow (seconds_nonneg _)
  have full : seconds (4 * 10 ^ 9) * DEGRADED_REFILL_PER_SEC = DEGRADED_CAPACITY := by
    norm_num [seconds, DEGRADED_REFILL_PER_SEC, DEGRADED_CAPACITY]
  rw [CommandBudget.refill_tokens solvent, le_min_iff]
  exact ⟨by linarith [solvent.nonneg], left.degraded_le_capacity⟩

end Progress

/-- No command costs more than a full degraded budget holds, and whatever was asked of the budget
before, four seconds after any moment since its last refill it releases the front of its queue. -/
theorem queue_never_sticks :
    (∀ command : Command, command.floodCost ≤ DEGRADED_CAPACITY) ∧
    ∀ start ops t, Run Traffic.step anyStep (Traffic.fresh start) ops t →
      ∀ command rest, t.budget.queue = command :: rest → ∀ now, t.budget.lastRefill ≤ now →
        (t.budget.takeReady (now + 4 * 10 ^ 9)).1 = some command ∧
          (t.budget.takeReady (now + 4 * 10 ^ 9)).2.queue = rest := by
  refine ⟨floodCost_le, fun start ops t run command rest queue now later => ?_⟩
  have solvent := run.invariant (fun t => Solvent t.budget) (.new start)
    fun t op u solvent _ taken => by
      obtain rfl := Option.some.inj taken
      exact solvent_after solvent
  have waited : 4 * 10 ^ 9 ≤ now + 4 * 10 ^ 9 - t.budget.lastRefill := by
    rw [Nat.sub_add_comm later]
    exact Nat.le_add_left _ _
  have afford := (floodCost_le command).trans (refill_fills solvent waited)
  rw [CommandBudget.takeReady_of_afford queue afford]
  exact ⟨rfl, rfl⟩

/-- A budget that has just entered degraded mode with a poke in the queue. -/
def pokeQueued : Traffic :=
  ((Traffic.fresh 0).after (.enqueue (.pokeClient 7 "hello"))).after (.enterDegraded 0)

theorem poke_waits_four_seconds :
    (pokeQueued.budget.takeReady (0 + 4 * 10 ^ 9)).1 = some (.pokeClient 7 "hello") := by
  have run : Run Traffic.step anyStep (Traffic.fresh 0)
      [.enqueue (.pokeClient 7 "hello"), .enterDegraded 0] pokeQueued :=
    .cons trivial rfl (.single trivial rfl)
  exact (queue_never_sticks.2 0 _ pokeQueued run _ [] rfl 0 (Nat.zero_le _)).1

end Nek0.Guarantees
