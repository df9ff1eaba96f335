import Mathlib.Data.List.Perm.Basic
import Nek0.Source.CommandBudget

/-!
# The way of a command

From `queue_command` through the channel, the budget and the commands that `event_loop`
takes in one turn, to the command that it runs. Every command that enters leaves once,
by being run or by being lost in the queue of the budget.
-/

namespace Nek0.Source

structure CommandPipe where
  /-- Commands in the channel, oldest first. -/
  channel : List Command
  commandBudget : CommandBudget
  /-- Commands that the loop has taken for this turn. -/
  ready : List Command

namespace CommandPipe

def new (now : Instant) : CommandPipe := ⟨[], .new now, []⟩

/-- Every command on its way. -/
def commands (p : CommandPipe) : List Command := p.channel ++ p.commandBudget.queue ++ p.ready

/-- `queue_command` -/
def queue (p : CommandPipe) (command : Command) : CommandPipe :=
  { p with channel := p.channel ++ [command] }

/-- What `enqueue` gives up for a command: the one that it replaces, or the oldest one of
a full queue. -/
def lostTo (budget : CommandBudget) (command : Command) : Option Command :=
  match budget.queue.findIdx? command.supersedes with
  | some slot => budget.queue[slot]?
  | none => if CommandBudget.MAX_QUEUE ≤ budget.queue.length then budget.queue.head? else none

/-- Audio and disconnect do not go through the budget. -/
def isDirect : Command → Bool
  | .sendAudio _ | .disconnect => true
  | _ => false

/-- What is lost when the loop takes the next command from the channel. -/
def lost (p : CommandPipe) : Option Command :=
  match p.channel with
  | [] => none
  | command :: _ => if isDirect command then none else lostTo p.commandBudget command

/-- The loop takes the next command from the channel. -/
def receive (p : CommandPipe) : Option CommandPipe :=
  match p.channel with
  | [] => none
  | command :: channel =>
    some <|
      if isDirect command then { p with channel, ready := p.ready ++ [command] }
      else { p with channel, commandBudget := p.commandBudget.enqueue command }

/-- The loop takes the next command that the budget can afford. -/
def take (p : CommandPipe) (now : Instant) : CommandPipe :=
  let (command, budget) := p.commandBudget.takeReady now
  { p with commandBudget := budget, ready := p.ready ++ command.toList }

def enterDegraded (p : CommandPipe) (now : Instant) : CommandPipe :=
  { p with commandBudget := p.commandBudget.enterDegraded now }

/-- The command that the loop runs next. -/
def pop (p : CommandPipe) : Option (Command × CommandPipe) :=
  match p.ready with
  | [] => none
  | command :: ready => some (command, { p with ready })

@[simp] theorem commands_new (now : Instant) : (new now).commands = [] := rfl

@[simp] theorem commands_enterDegraded (p : CommandPipe) (now : Instant) :
    (p.enterDegraded now).commands = p.commands := rfl

theorem commands_queue (p : CommandPipe) (command : Command) :
    (p.queue command).commands.Perm (command :: p.commands) := by
  simp only [commands, queue, List.append_assoc, List.singleton_append]
  exact List.perm_middle

theorem lostTo_enqueue (budget : CommandBudget) (command : Command) :
    (command :: budget.queue).Perm
      ((lostTo budget command).toList ++ (budget.enqueue command).queue) := by
  rcases budget.enqueue_cases command with
    ⟨older, old, between, queue, _, found, enqueued⟩ | ⟨found, full, enqueued⟩ |
    ⟨found, room, enqueued⟩
  · have replaced : lostTo budget command = some old := by
      simp only [lostTo, found]
      simp [queue]
    rw [replaced, enqueued, queue]
    have front : (old :: (older ++ command :: between)).Perm
        (old :: command :: (older ++ between)) := List.perm_middle.cons old
    have back : (command :: (older ++ old :: between)).Perm
        (command :: old :: (older ++ between)) := List.perm_middle.cons command
    exact back.trans ((List.Perm.swap old command _).trans front.symm)
  · have dropped : lostTo budget command = budget.queue.head? := by simp [lostTo, found, full]
    rw [dropped, enqueued]
    cases queue : budget.queue with
    | nil => simp [queue, CommandBudget.MAX_QUEUE] at full
    | cons head rest => exact (List.perm_append_singleton command (head :: rest)).symm
  · have kept : lostTo budget command = none := by
      have small : ¬CommandBudget.MAX_QUEUE ≤ budget.queue.length := by omega
      simp [lostTo, found, small]
    rw [kept, enqueued]
    exact (List.perm_append_singleton command budget.queue).symm

theorem queue_first (channel queue ready : List Command) :
    (channel ++ queue ++ ready).Perm (queue ++ (channel ++ ready)) := by
  rw [← List.append_assoc]
  exact List.perm_append_comm.append_right ready

theorem commands_receive {p q : CommandPipe} (received : p.receive = some q) :
    p.commands.Perm (p.lost.toList ++ q.commands) := by
  unfold receive at received
  unfold lost
  split at received
  · cases received
  next command channel listed =>
  obtain rfl := Option.some.inj received
  simp only [commands, listed]
  by_cases direct : isDirect command = true
  · simp only [direct, if_true, Option.toList_none, List.nil_append, List.append_assoc]
    have moved : (command :: (channel ++ p.commandBudget.queue ++ p.ready)).Perm
        (channel ++ p.commandBudget.queue ++ p.ready ++ [command]) :=
      (List.perm_append_singleton command _).symm
    simpa using moved
  · simp only [direct, if_false, Bool.false_eq_true]
    have front := (queue_first channel p.commandBudget.queue p.ready).cons command
    have entered :=
      (lostTo_enqueue p.commandBudget command).append_right (channel ++ p.ready)
    have back := (queue_first channel (p.commandBudget.enqueue command).queue p.ready).symm
    rw [List.append_assoc] at entered
    exact (front.trans entered).trans (back.append_left _)

theorem commands_take (p : CommandPipe) (now : Instant) :
    (p.take now).commands.Perm p.commands := by
  have queue := p.commandBudget.takeReady_queue now
  simp only [commands, take, queue, List.append_assoc]
  refine List.Perm.append_left _ ?_
  rw [← List.append_assoc _ p.ready]
  exact List.perm_append_comm

theorem commands_pop {p q : CommandPipe} {command : Command} (popped : p.pop = some (command, q)) :
    p.commands.Perm (command :: q.commands) := by
  unfold pop at popped
  split at popped
  · cases popped
  next head ready listed =>
  cases popped
  simp only [commands, listed]
  exact List.perm_middle

end CommandPipe

end Nek0.Source
