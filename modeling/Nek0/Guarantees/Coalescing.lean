import Nek0.Abstract.ServerState
import Nek0.Library.Run
import Nek0.Source.CommandBudget

/-!
# Coalescing and the meaning of commands

The budget promises that the user's last intention always reaches the server.
Here the commands that leave the queue are compared with those that entered it,
by what they do to the server state. `supersedes` ignores the ids the two
commands carry and a replaced command takes the place of an older one, so the
meaning is kept exactly as long as a merge joins two commands with one target
and moves nothing past a command that stands in its way.
-/

namespace Nek0.Guarantees

open Nek0.Source Nek0.Abstract Nek0.Library

inductive BudgetOp where
  | enqueue (command : Command)
  | takeReady (now : Instant)
  | enterDegraded (now : Instant)

/-- A budget with the commands that entered and left it so far. -/
structure Traffic where
  budget : CommandBudget
  enqueued : List Command
  released : List Command

namespace Traffic

def fresh (now : Instant) : Traffic := ⟨CommandBudget.new now, [], []⟩

def after (t : Traffic) : BudgetOp → Traffic
  | .enqueue command =>
    { t with budget := t.budget.enqueue command, enqueued := t.enqueued ++ [command] }
  | .takeReady now =>
    { t with
      budget := (t.budget.takeReady now).2
      released := t.released ++ (t.budget.takeReady now).1.toList }
  | .enterDegraded now => { t with budget := t.budget.enterDegraded now }

/-- No operation is ever refused. -/
def step (t : Traffic) (op : BudgetOp) : Option Traffic := some (t.after op)

/-- The operation does not overflow the queue. -/
def fits (t : Traffic) : BudgetOp → Prop
  | .enqueue command =>
    t.budget.queue.findIdx? command.supersedes = none →
      t.budget.queue.length < CommandBudget.MAX_QUEUE
  | _ => True

/-- A replaced command has the target of the one that replaces it, and nothing
queued behind it stands in the way of the newer command. -/
def mergesFaithfully (setting : Setting) (t : Traffic) : BudgetOp → Prop
  | .enqueue command => ∀ slot ∈ t.budget.queue.findIdx? command.supersedes,
      ∀ old ∈ t.budget.queue[slot]?, target command = target old ∧
        ∀ queued ∈ t.budget.queue.drop (slot + 1),
          standsInTheWay setting old command queued = false
  | _ => True

/-- Everything that left the queue, followed by what will leave it next. -/
def outgoing (t : Traffic) : List Command := t.released ++ t.budget.queue

theorem takeReady_outgoing (t : Traffic) (now : Instant) :
    (t.after (.takeReady now)).outgoing = t.outgoing := by
  simp only [after, outgoing, List.append_assoc, ← CommandBudget.takeReady_queue]

/-- A command that enters without a merge or an overflow goes to the end; one
that is merged replaces an older command in place. -/
theorem enqueue_outgoing (t : Traffic) (command : Command) (room : t.fits (.enqueue command)) :
    (t.after (.enqueue command)).outgoing = t.outgoing ++ [command] ∨
    ∃ older old between, t.budget.queue = older ++ old :: between ∧
      command.supersedes old = true ∧
      t.budget.queue.findIdx? command.supersedes = some older.length ∧
      (t.after (.enqueue command)).outgoing = (t.released ++ older) ++ command :: between := by
  rcases t.budget.enqueue_cases command with
    ⟨older, old, between, split, supersedes, found, queue⟩ | ⟨none, full, _⟩ | ⟨_, _, queue⟩
  · exact .inr ⟨older, old, between, split, supersedes, found, by simp [after, outgoing, queue]⟩
  · have := room none
    omega
  · exact .inl (by simp [after, outgoing, queue])

end Traffic

/-- The two sides of the contract agree: what leaves the queue means what
entered it. -/
def SameMeaning (setting : Setting) (t : Traffic) : Prop :=
  ∀ s, runAll (apply setting) t.outgoing s = runAll (apply setting) t.enqueued s

theorem after_sameMeaning (setting : Setting) {t : Traffic} {op : BudgetOp}
    (same : SameMeaning setting t) (room : t.fits op) (faithful : t.mergesFaithfully setting op) :
    SameMeaning setting (t.after op) := by
  intro s
  cases op with
  | takeReady now =>
    rw [Traffic.takeReady_outgoing]
    exact same s
  | enterDegraded now => exact same s
  | enqueue command =>
    have issued : (t.after (.enqueue command)).enqueued = t.enqueued ++ [command] := rfl
    rw [issued, runAll_append, ← same s]
    rcases t.enqueue_outgoing command room with
      last | ⟨older, old, between, split, supersedes, found, replaced⟩
    · rw [last, runAll_append]
    · obtain ⟨sameTarget, free⟩ := faithful _ found old (by simp [split])
      rw [replaced, merge_preserves setting supersedes sameTarget
        (fun queued behind => free queued (by simpa [split] using behind))]
      simp [Traffic.outgoing, split]

/-- In every run that never overflows the queue and whose merges are faithful,
the commands released so far followed by those still queued do to every server
state what all enqueued commands do in the order they were enqueued. Once the
queue is empty, the released commands alone do. -/
theorem coalescing_preserves_meaning (setting : Setting) (start : Instant)
    {ops : List BudgetOp} {t : Traffic}
    (run : Run Traffic.step (fun t op => t.fits op ∧ t.mergesFaithfully setting op)
      (Traffic.fresh start) ops t) :
    SameMeaning setting t ∧
    (t.budget.queue = [] → ∀ s,
      runAll (apply setting) t.released s = runAll (apply setting) t.enqueued s) := by
  have same : SameMeaning setting t :=
    run.invariant (SameMeaning setting) (fun s => rfl) fun t op u same ok taken => by
      cases taken
      exact after_sameMeaning setting same ok.1 ok.2
  refine ⟨same, fun empty s => ?_⟩
  simpa [Traffic.outgoing, empty] using same s

/-- A move of client 1 is refreshed before it is released. -/
theorem coalescing_preserves_refreshed_move :
    let t := (((Traffic.fresh 0).after (.enqueue (.moveChannel 1 5 none))).after
      (.enqueue (.moveChannel 1 7 none))).after (.takeReady 0)
    ∀ s, runAll (apply ⟨1, 1⟩) t.released s = runAll (apply ⟨1, 1⟩) t.enqueued s := by
  intro t
  have run : Run Traffic.step (fun t op => t.fits op ∧ t.mergesFaithfully ⟨1, 1⟩ op)
      (Traffic.fresh 0)
      [.enqueue (.moveChannel 1 5 none), .enqueue (.moveChannel 1 7 none), .takeReady 0] t := by
    refine .next (.next (.next .start ⟨?_, ?_⟩ rfl) ⟨?_, ?_⟩ rfl) ⟨trivial, trivial⟩ rfl
    · exact fun _ => by decide
    · exact fun _ found => nomatch found
    · exact fun found => nomatch found
    · rintro slot ⟨⟩
      decide
  exact (coalescing_preserves_meaning ⟨1, 1⟩ 0 run).2 (by decide +kernel)

/-- A move of client 1 waits in the queue when client 2 is moved: the first move
is lost, although nothing overflowed and everything queued was released. -/
theorem coalescing_loses_move :
    ¬ ∀ (setting : Setting) (start : Instant) (ops : List BudgetOp) (t : Traffic),
      Run Traffic.step Traffic.fits (Traffic.fresh start) ops t → t.budget.queue = [] →
      ∀ s, runAll (apply setting) t.released s = runAll (apply setting) t.enqueued s := by
  intro claimed
  let t := (((Traffic.fresh 0).after (.enqueue (.moveChannel 1 5 none))).after
      (.enqueue (.moveChannel 2 7 none))).after (.takeReady 0)
  have run : Run Traffic.step Traffic.fits (Traffic.fresh 0)
      [.enqueue (.moveChannel 1 5 none), .enqueue (.moveChannel 2 7 none), .takeReady 0] t := by
    refine .next (.next (.next .start ?_ rfl) ?_ rfl) trivial rfl
    · exact fun _ => by decide
    · exact fun found => nomatch found
  have same := claimed ⟨1, 1⟩ 0 _ t run (by decide +kernel) (.idle 1)
  have channel := congrFun (congrArg ServerState.clientChannel same) 1
  exact absurd channel (by decide +kernel)

end Nek0.Guarantees
