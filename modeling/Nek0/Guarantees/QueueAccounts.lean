import Nek0.Guarantees.Coalescing

/-!
# What becomes of a queued command

Each command gets a number when it is enqueued, and the ledger follows it: it waits, and then it is
released, replaced by a newer command in its place, or lost from the front of a full queue.
-/

namespace Nek0.Guarantees

open Nek0.Source Nek0.Library
open Nek0.Source.CommandBudget (MAX_QUEUE)

/-- The queue with the number of each command, and the numbered commands that have left it. -/
structure QueueLedger where
  traffic : Traffic
  /-- Front first. -/
  pending : List (Command × Nat)
  released : List (Command × Nat)
  /-- A command with the one that took its place. -/
  replaced : List ((Command × Nat) × (Command × Nat))
  overflowed : List (Command × Nat)

namespace QueueLedger

def fresh (now : Instant) : QueueLedger := ⟨.fresh now, [], [], [], []⟩

def enqueue (l : QueueLedger) (command : Command) : QueueLedger :=
  let entry := (command, l.traffic.enqueued.length)
  let traffic := l.traffic.after (.enqueue command)
  match l.pending.findIdx? fun queued => command.supersedes queued.1 with
  | some slot =>
    { l with
      traffic
      pending := l.pending.set slot entry
      replaced := l.replaced ++ (l.pending[slot]?.map fun old => (old, entry)).toList }
  | none =>
    if MAX_QUEUE ≤ l.pending.length then
      { l with
        traffic
        pending := l.pending.tail ++ [entry]
        overflowed := l.overflowed ++ l.pending.head?.toList }
    else { l with traffic, pending := l.pending ++ [entry] }

def takeReady (l : QueueLedger) (now : Instant) : QueueLedger :=
  let traffic := l.traffic.after (.takeReady now)
  match (l.traffic.budget.takeReady now).1 with
  | some _ =>
    { l with
      traffic, pending := l.pending.tail, released := l.released ++ l.pending.head?.toList }
  | none => { l with traffic }

def after (l : QueueLedger) : BudgetOp → QueueLedger
  | .enqueue command => l.enqueue command
  | .takeReady now => l.takeReady now
  | .enterDegraded now => { l with traffic := l.traffic.after (.enterDegraded now) }

def step (l : QueueLedger) (op : BudgetOp) : Option QueueLedger := some (l.after op)

/-- The command has not taken the place of another one. -/
def appended (l : QueueLedger) (entry : Command × Nat) : Bool :=
  entry.2 ∉ l.replaced.map (·.2.2)

/-- The command has neither replaced another one nor been replaced. -/
def untouched (l : QueueLedger) (entry : Command × Nat) : Bool :=
  l.appended entry && entry.2 ∉ l.replaced.map (·.1.2)

end QueueLedger

/-- The books agree with the budget and balance. -/
structure Balanced (l : QueueLedger) : Prop where
  queue : l.traffic.budget.queue = l.pending.map Prod.fst
  outputs : l.traffic.released = l.released.map Prod.fst
  dropped : l.traffic.budget.dropped = .ofNat l.overflowed.length
  whole : (l.released ++ l.replaced.map Prod.fst ++ l.overflowed ++ l.pending).Perm
    l.traffic.enqueued.zipIdx
  bounded : l.pending.length ≤ MAX_QUEUE
  newer : ∀ pair ∈ l.replaced, pair.2.1.supersedes pair.1.1 = true ∧ pair.1.2 < pair.2.2 ∧
    pair.2 ∈ l.traffic.enqueued.zipIdx
  single : l.pending.Pairwise fun a b => a.1.supersedes b.1 = false
  ordered : ((l.released ++ l.pending).filter l.appended).Pairwise fun a b => a.2 < b.2

section Balanced

variable {l : QueueLedger} {command : Command} {now : Instant}

theorem balanced_fresh (start : Instant) : Balanced (.fresh start) where
  queue := rfl
  outputs := rfl
  dropped := rfl
  whole := .nil
  bounded := Nat.zero_le _
  newer pair listed := by cases listed
  single := .nil
  ordered := .nil

/-- Every number in the books was given to a command before. -/
theorem Balanced.number_lt (balanced : Balanced l) {entry : Command × Nat}
    (listed : entry ∈ l.released ++ l.replaced.map Prod.fst ++ l.overflowed ++ l.pending) :
    entry.2 < l.traffic.enqueued.length :=
  List.snd_lt_of_mem_zipIdx (balanced.whole.mem_iff.mp listed)

/-- The code finds the slot that the books find. -/
theorem Balanced.findIdx (balanced : Balanced l) (command : Command) :
    l.traffic.budget.queue.findIdx? command.supersedes =
      l.pending.findIdx? fun queued => command.supersedes queued.1 := by
  rw [balanced.queue, List.findIdx?_map]
  rfl

/-- The numbers of the commands that replaced none grow through the queue. -/
theorem Balanced.ordered_append (balanced : Balanced l) (entry : Command × Nat)
    (number : entry.2 = l.traffic.enqueued.length) :
    (((l.released ++ l.pending) ++ [entry]).filter l.appended).Pairwise fun a b => a.2 < b.2 := by
  rw [List.filter_append, List.pairwise_append]
  refine ⟨balanced.ordered, List.Pairwise.filter _ (List.pairwise_singleton _ _), ?_⟩
  intro a before b last
  have listed := List.mem_of_mem_filter before
  obtain rfl := List.mem_singleton.mp (List.mem_of_mem_filter last)
  rw [number]
  refine balanced.number_lt ?_
  simp only [List.mem_append] at listed ⊢
  exact listed.elim (fun out => .inl (.inl (.inl out))) .inr

/-- A command stands in for the one it supersedes. -/
theorem single_replace {older between : List (Command × Nat)} {old entry : Command × Nat}
    (supersedes : entry.1.supersedes old.1 = true)
    (single : (older ++ old :: between).Pairwise fun a b => a.1.supersedes b.1 = false) :
    (older ++ entry :: between).Pairwise fun a b => a.1.supersedes b.1 = false := by
  rw [List.pairwise_append, List.pairwise_cons] at single ⊢
  obtain ⟨front, ⟨rest, back⟩, apart⟩ := single
  refine ⟨front, ⟨fun b listed => ?_, back⟩, fun a listed b listed' => ?_⟩
  · exact (Command.supersedes_congr supersedes b.1).trans (rest b listed)
  · rcases List.mem_cons.mp listed' with rfl | behind
    · have distinct := apart a listed old List.mem_cons_self
      refine Bool.eq_false_iff.mpr fun same => ?_
      have merged := Command.supersedes_symm same
      rw [Command.supersedes_congr supersedes] at merged
      exact Bool.eq_false_iff.mp distinct (Command.supersedes_symm merged)
    · exact apart a listed b (List.mem_cons_of_mem _ behind)

/-- The command that replaced another one has no say in the order. -/
theorem Balanced.ordered_replace (balanced : Balanced l) {older between : List (Command × Nat)}
    {old entry : Command × Nat} (split : l.pending = older ++ old :: between)
    {later : QueueLedger} (replaced : later.replaced = l.replaced ++ [(old, entry)]) :
    ((l.released ++ (older ++ entry :: between)).filter later.appended).Pairwise
      fun a b => a.2 < b.2 := by
  have dropped : (older ++ between).Sublist l.pending := by
    rw [split]
    exact (List.Sublist.refl older).append (List.sublist_cons_self old between)
  refine balanced.ordered.sublist (.trans ?_
    (((List.Sublist.refl l.released).append dropped).filter l.appended))
  have out : later.appended entry = false := by simp [replaced, QueueLedger.appended]
  have fewer (a : Command × Nat) (kept : later.appended a = true) : l.appended a = true := by
    simp only [replaced, QueueLedger.appended, List.map_append, List.mem_append, not_or,
      decide_eq_true_eq] at kept ⊢
    exact kept.1
  have same : (l.released ++ (older ++ entry :: between)).filter later.appended =
      (l.released ++ (older ++ between)).filter later.appended := by
    simp [List.filter_append, out]
  exact same ▸ List.monotone_filter_right _ fewer

theorem balanced_replace (balanced : Balanced l) {slot : Nat}
    (found : l.pending.findIdx? (fun queued => command.supersedes queued.1) = some slot) :
    Balanced (l.enqueue command) := by
  obtain ⟨older, old, between, split, rfl, supersedes⟩ := split_of_findIdx? found
  let entry := (command, l.traffic.enqueued.length)
  have inQueue := (balanced.findIdx command).trans found
  have budget : (l.traffic.budget.enqueue command) =
      { l.traffic.budget with queue := l.traffic.budget.queue.set older.length command } := by
    rw [CommandBudget.enqueue, inQueue]
  have after : l.enqueue command =
      { l with
        traffic := l.traffic.after (.enqueue command)
        pending := older ++ entry :: between
        replaced := l.replaced ++ [(old, entry)] } := by
    simp only [QueueLedger.enqueue, found]
    simp [split, entry]
  have number : old.2 < l.traffic.enqueued.length :=
    balanced.number_lt (by simp [split])
  rw [after]
  constructor
  · simp only [Traffic.after]
    rw [budget, balanced.queue, split]
    simp [entry]
  · exact balanced.outputs
  · simp only [Traffic.after]
    rw [budget]
    exact balanced.dropped
  · have before := balanced.whole
    rw [split] at before
    simp only [Traffic.after, List.zipIdx_append, List.zipIdx_singleton, Nat.zero_add,
      List.map_append, List.map_cons, List.map_nil]
    refine .trans ?_ (before.append_right [entry])
    rw [← List.append_assoc l.released]
    exact replaced_perm ..
  · have same := balanced.bounded
    rw [split] at same
    simpa using same
  · intro pair listed
    simp only [Traffic.after, List.zipIdx_append, List.mem_append]
    rcases List.mem_append.mp listed with earlier | last
    · obtain ⟨kind, later, known⟩ := balanced.newer pair earlier
      exact ⟨kind, later, .inl known⟩
    · obtain rfl := List.mem_singleton.mp last
      exact ⟨supersedes, number, .inr (by simp [entry])⟩
  · exact single_replace supersedes (split ▸ balanced.single)
  · exact balanced.ordered_replace split rfl

theorem Balanced.single_append (balanced : Balanced l)
    (absent : l.pending.findIdx? (fun queued => command.supersedes queued.1) = none)
    (number : Nat) :
    (l.pending ++ [(command, number)]).Pairwise fun a b => a.1.supersedes b.1 = false := by
  have distinct : ∀ queued ∈ l.pending, command.supersedes queued.1 = false := by
    simpa using List.findIdx?_eq_none_iff.mp absent
  rw [List.pairwise_append]
  refine ⟨balanced.single, List.pairwise_singleton _ _, fun a listed b last => ?_⟩
  obtain rfl := List.mem_singleton.mp last
  exact Bool.eq_false_iff.mpr fun same =>
    Bool.eq_false_iff.mp (distinct a listed) (Command.supersedes_symm same)

theorem Balanced.newer_append (balanced : Balanced l) (command : Command) :
    ∀ pair ∈ l.replaced, pair.2.1.supersedes pair.1.1 = true ∧ pair.1.2 < pair.2.2 ∧
      pair.2 ∈ (l.traffic.enqueued ++ [command]).zipIdx := by
  intro pair listed
  obtain ⟨kind, later, known⟩ := balanced.newer pair listed
  exact ⟨kind, later, by simp [List.zipIdx_append, known]⟩

theorem Balanced.whole_append (balanced : Balanced l) (command : Command) :
    (l.released ++ l.replaced.map Prod.fst ++ l.overflowed ++
      (l.pending ++ [(command, l.traffic.enqueued.length)])).Perm
        (l.traffic.enqueued ++ [command]).zipIdx := by
  rw [← List.append_assoc, List.zipIdx_append]
  exact balanced.whole.append (by simp)

/-- A command that replaces none goes to the end of the queue, perhaps at the cost of its front. -/
theorem balanced_append (balanced : Balanced l)
    (absent : l.pending.findIdx? (fun queued => command.supersedes queued.1) = none) :
    Balanced (l.enqueue command) := by
  let entry := (command, l.traffic.enqueued.length)
  have inQueue := (balanced.findIdx command).trans absent
  have single := balanced.single_append absent l.traffic.enqueued.length
  have newer := balanced.newer_append command
  have whole := balanced.whole_append command
  have ordered := balanced.ordered_append entry rfl
  have length : l.traffic.budget.queue.length = l.pending.length := by simp [balanced.queue]
  rw [QueueLedger.enqueue, absent]
  dsimp only
  split
  next full =>
    have budget : l.traffic.budget.enqueue command =
        { l.traffic.budget with
          queue := l.traffic.budget.queue.tail ++ [command]
          dropped := l.traffic.budget.dropped + 1 } := by
      simp only [CommandBudget.enqueue, inQueue, length, full, if_true]
    cases pending : l.pending with
    | nil => simp [pending, MAX_QUEUE] at full
    | cons head rest =>
      have kept : (rest ++ [entry]).Sublist (l.pending ++ [entry]) :=
        pending ▸ (List.sublist_cons_self head rest).append_right _
      have bounded := balanced.bounded
      rw [pending, List.length_cons] at bounded
      refine ⟨?_, balanced.outputs, ?_, ?_, ?_, newer, single.sublist kept, ?_⟩
      · simp only [Traffic.after]
        rw [budget, balanced.queue, pending]
        simp
      · simp only [Traffic.after]
        rw [budget, balanced.dropped, List.length_append, UInt64.ofNat_add]
        rfl
      · simpa [pending, entry, Traffic.after] using whole
      · simpa using bounded
      · rw [List.append_assoc] at ordered
        exact ordered.sublist (((List.Sublist.refl l.released).append kept).filter _)
  next room =>
    have budget : l.traffic.budget.enqueue command =
        { l.traffic.budget with queue := l.traffic.budget.queue ++ [command] } := by
      simp only [CommandBudget.enqueue, inQueue, length, room, if_false]
    refine ⟨?_, balanced.outputs, ?_, whole, ?_, newer, single, ?_⟩
    · simp only [Traffic.after]
      rw [budget, balanced.queue, List.map_append]
      rfl
    · simp only [Traffic.after]
      rw [budget]
      exact balanced.dropped
    · rw [List.length_append, List.length_singleton]
      exact Nat.not_le.mp room
    · rw [List.append_assoc] at ordered
      exact ordered

theorem balanced_takeReady (balanced : Balanced l) (now : Instant) :
    Balanced (l.takeReady now) := by
  have split := l.traffic.budget.takeReady_queue now
  have dropped := (l.traffic.budget.takeReady_dropped now).trans balanced.dropped
  rw [QueueLedger.takeReady]
  cases taken : (l.traffic.budget.takeReady now).1 with
  | none =>
    rw [taken, Option.toList_none, List.nil_append] at split
    refine ⟨split.symm.trans balanced.queue, ?_, dropped, balanced.whole, balanced.bounded,
      balanced.newer, balanced.single, balanced.ordered⟩
    simpa [Traffic.after, taken] using balanced.outputs
  | some command =>
    rw [taken, Option.toList_some, List.singleton_append, balanced.queue] at split
    obtain ⟨head, rest, pending, rfl, remaining⟩ := List.map_eq_cons_iff.mp split
    have bounded := balanced.bounded
    have single := balanced.single
    rw [pending] at bounded single
    simp only [pending, List.tail_cons, List.head?_cons, Option.toList_some]
    refine ⟨remaining.symm, ?_, dropped, ?_, Nat.le_of_succ_le bounded, balanced.newer,
      single.of_cons, ?_⟩
    · simp [Traffic.after, taken, balanced.outputs]
    · have whole := balanced.whole
      rw [pending] at whole
      exact (front_moved_perm ..).trans whole
    · have ordered := balanced.ordered
      rw [pending] at ordered
      rw [List.append_assoc]
      exact ordered

theorem balanced_after (balanced : Balanced l) (op : BudgetOp) : Balanced (l.after op) := by
  cases op with
  | enqueue command =>
    cases found : l.pending.findIdx? fun queued => command.supersedes queued.1 with
    | none => exact balanced_append balanced found
    | some slot => exact balanced_replace balanced found
  | takeReady now => exact balanced_takeReady balanced now
  | enterDegraded now =>
    exact ⟨balanced.queue, balanced.outputs, balanced.dropped, balanced.whole, balanced.bounded,
      balanced.newer, balanced.single, balanced.ordered⟩

end Balanced

theorem QueueLedger.after_traffic (l : QueueLedger) (op : BudgetOp) :
    (l.after op).traffic = l.traffic.after op := by
  cases op with
  | enqueue command =>
    simp only [QueueLedger.after, QueueLedger.enqueue]
    split
    · rfl
    · split <;> rfl
  | takeReady now =>
    simp only [QueueLedger.after, QueueLedger.takeReady]
    split <;> rfl
  | enterDegraded now => rfl

/-- The ledger keeps the books of the budget itself. -/
theorem traffic_of_run {start : Instant} {ops : List BudgetOp} {l : QueueLedger}
    (run : Run QueueLedger.step anyStep (.fresh start) ops l) :
    Run Traffic.step anyStep (.fresh start) ops l.traffic := by
  obtain ⟨traffic, same, rfl⟩ := run.lockstep Traffic.step anyStep
    (fun l traffic => l.traffic = traffic) rfl
    fun l op m traffic same _ taken => by
      obtain rfl := Option.some.inj taken
      have matched : Traffic.step traffic op = some (l.traffic.after op) := by rw [same]; rfl
      exact ⟨_, trivial, matched, l.after_traffic op⟩
  exact same

/-- In every run of the budget the queue is bounded; each enqueued command, by its number, is in
exactly one of the four lists and once; the counter counts the ones that overflowed; no two
pending commands are of one superseding kind; and the released commands that had to do with no
replacement came out in the order they were enqueued. -/
theorem queue_accounts_balance (start : Instant) (ops : List BudgetOp) (l : QueueLedger)
    (run : Run QueueLedger.step anyStep (.fresh start) ops l) :
    (Run Traffic.step anyStep (.fresh start) ops l.traffic ∧
      l.traffic.budget.queue = l.pending.map Prod.fst ∧
      l.traffic.released = l.released.map Prod.fst) ∧
    l.traffic.budget.queue.length ≤ MAX_QUEUE ∧
    (l.released ++ l.replaced.map Prod.fst ++ l.overflowed ++ l.pending).Perm
      l.traffic.enqueued.zipIdx ∧
    (∀ pair ∈ l.replaced, pair.2.1.supersedes pair.1.1 = true ∧ pair.1.2 < pair.2.2 ∧
      pair.2 ∈ l.traffic.enqueued.zipIdx) ∧
    l.traffic.budget.dropped = .ofNat l.overflowed.length ∧
    (l.traffic.budget.queue.Pairwise fun a b => a.supersedes b = false) ∧
    (l.released.filter l.untouched).Pairwise fun a b => a.2 < b.2 := by
  have balanced := run.invariant Balanced (balanced_fresh start) fun l op m balanced _ taken => by
    obtain rfl := Option.some.inj taken
    exact balanced_after balanced op
  refine ⟨⟨traffic_of_run run, balanced.queue, balanced.outputs⟩, ?_, balanced.whole,
    balanced.newer, balanced.dropped, ?_, ?_⟩
  · rw [balanced.queue, List.length_map]
    exact balanced.bounded
  · rw [balanced.queue, List.pairwise_map]
    exact balanced.single
  · have kept (entry : Command × Nat) (alone : l.untouched entry = true) :
        l.appended entry = true := (Bool.and_eq_true_iff.mp alone).1
    exact balanced.ordered.sublist (.trans (List.monotone_filter_right _ kept)
      ((List.sublist_append_left _ _).filter _))

/-- A mute is replaced, then three commands are released and one still waits. -/
def mixedOps : List BudgetOp :=
  [.enqueue (.pokeClient 7 "hello"), .enqueue (.setMuted true false),
    .enqueue (.sendMessage 2 0 "hi"), .enqueue (.setMuted false false), .takeReady 0, .takeReady 0,
    .takeReady 0, .enqueue (.kickClient 7 false none), .enterDegraded 0, .takeReady 0]

theorem mixed_ops_balance : ∃ l, Run QueueLedger.step anyStep (.fresh 0) mixedOps l ∧
    l.released.map Prod.snd = [0, 3, 2] ∧ l.replaced.map (·.1.2) = [1] ∧
    l.pending.map Prod.snd = [4] ∧ l.traffic.budget.dropped = .ofNat l.overflowed.length ∧
    (l.released.filter l.untouched).Pairwise fun a b => a.2 < b.2 := by
  obtain ⟨l, run, shown⟩ := reaches_of_exec anyStep (fun _ _ _ => trivial) (show
    (exec QueueLedger.step (.fresh 0) mixedOps).any (fun l =>
      l.released.map Prod.snd = [0, 3, 2] && l.replaced.map (·.1.2) = [1] &&
        l.pending.map Prod.snd = [4]) = true by
    decide +kernel)
  simp only [Bool.and_eq_true, decide_eq_true_eq] at shown
  obtain ⟨-, -, -, -, dropped, -, ordered⟩ := queue_accounts_balance 0 mixedOps l run
  exact ⟨l, run, shown.1.1, shown.1.2, shown.2, dropped, ordered⟩

end Nek0.Guarantees
