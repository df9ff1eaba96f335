import Nek0.Library.Run
import Nek0.Source.NativeEngine

/-!
# Lifecycle of an engine session

A session ends once, says nothing live after its end and is gone from the table when
its tasks rest, as long as the attempt succeeds, no cancel reports a failure and no
file transfer outlives the announcement of the disconnect. A cancel that comes after
the handshake shows what happens otherwise.
-/

namespace Nek0.Guarantees

open Nek0.Source Nek0.Source.SessionTasks Nek0.Library

/-- After a terminal event neither another one nor an event of a live session follows. -/
def MayFollow (first later : PushedEvent) : Prop :=
  first.isTerminal = true → later.isTerminal = false ∧ later.isLive = false

structure EndsOnce (s : SessionTasks) (events : List PushedEvent) : Prop where
  once : events.countP (·.isTerminal) ≤ 1
  last : events.Pairwise MayFollow
  absent : s.atRest = true → (∃ event ∈ events, event.isTerminal = true) → s.cell = none

/-- The attempt does not fail, a cancel finds neither the handle of the connect task nor
the session marked connecting, and no file transfer is left when the end is announced. -/
def calm (s : SessionTasks) : TaskAction → Bool
  | .fail .. => false
  | .call =>
    match s.call with
    | some (.abort handle wasConnecting) => !handle && !wasConnecting
    | _ => true
  | .loop =>
    match s.loop with
    | .unmarked _ => s.transfers = 0
    | _ => true
  | _ => true

def undisturbed (e : NativeEngine) : NativeAction → Bool
  | .task cid action => calm (e.sessions cid) action
  | _ => true

/-- The tasks of a session while nothing disturbs it. -/
structure Regular (s : SessionTasks) : Prop where
  succeeds : ∀ kind retryable, s.task ≠ .failed kind retryable ∧ s.task ≠ .unmarked kind retryable
  uncancelled : s.call ≠ some .reportCancelled
  behind : s.loop ≠ .unspawned → s.task = .leaving ∨ s.task = .ended

/-- The session has announced its end and is on its way out of the table. -/
def Announced (s : SessionTasks) : Prop :=
  s.transfers = 0 ∧ (s.loop = .announced ∨ s.loop = .detached ∨
    s.cell = none ∧ (s.loop = .returned ∨ s.loop = .reported ∨ s.loop = .ended))

section Steps

variable {s : SessionTasks} {action : TaskAction} {outcome : Outcome}

theorem regular_step (regular : Regular s) (meets : calm s action = true)
    (taken : s.step action = some outcome) : Regular outcome.1 := by
  obtain ⟨succeeds, uncancelled, behind⟩ := regular
  obtain ⟨cell, task, loop, sent, transfers, call⟩ := s
  cases action with
  | fail => cases meets
  | connect =>
    cases task <;> cases cell <;> cases taken
    all_goals constructor <;> simp_all [modifyCell]
  | loop =>
    cases loop with
    | unspawned | running | ended => cases taken
    | spawned =>
      simp only [SessionTasks.step, loopStep] at taken
      split at taken <;> cases taken <;> constructor <;> simp_all [modifyCell]
    | _ =>
      cases taken
      constructor <;> simp_all [modifyCell]
  | call =>
    rcases call with _ | point
    · cases taken
    cases point with
    | readAlive =>
      cases taken
      refine ⟨succeeds, ?_, behind⟩
      dsimp only
      split <;> simp
    | takeConnection =>
      simp only [SessionTasks.step, callStep] at taken
      split at taken <;> cases taken <;> constructor <;> simp_all [modifyCell]
    | _ =>
      cases taken
      constructor <;> simp_all [modifyCell, calm]
  | _ =>
    simp only [SessionTasks.step, Option.ite_none_right_eq_some, Option.some.injEq] at taken
    obtain ⟨_, rfl⟩ := taken
    constructor <;> simp_all

/-- An announced end stays announced, and only diagnostics follow it. -/
theorem announced_step (regular : Regular s) (announced : Announced s)
    (taken : s.step action = some outcome) :
    Announced outcome.1 ∧ ∀ event ∈ outcome.2, event = .diag := by
  obtain ⟨succeeds, uncancelled, behind⟩ := regular
  obtain ⟨cell, task, loop, sent, transfers, call⟩ := s
  obtain ⟨idle, past⟩ := announced
  dsimp only at *
  have finished : task = .leaving ∨ task = .ended := by
    apply behind
    rcases past with rfl | rfl | ⟨-, rfl | rfl | rfl⟩ <;> simp
  have stopped : loop ≠ .running := by
    rcases past with rfl | rfl | ⟨-, rfl | rfl | rfl⟩ <;> simp
  cases action with
  | connect =>
    rcases finished with rfl | rfl <;> cases taken
    simp_all [Announced, modifyCell]
  | loop =>
    rcases past with rfl | rfl | ⟨rfl, rfl | rfl | rfl⟩ <;> cases taken
    all_goals simp_all [Announced, modifyCell]
  | call =>
    rcases call with _ | point
    · cases taken
    cases point with
    | takeConnection =>
      simp only [SessionTasks.step, callStep] at taken
      split at taken <;> cases taken <;> simp_all [Announced, modifyCell]
    | removeSession =>
      cases taken
      refine ⟨⟨idle, ?_⟩, fun _ inside => nomatch inside⟩
      exact past.imp_right (Or.imp_right fun removed => ⟨rfl, removed.2⟩)
    | _ =>
      cases taken
      simp_all [Announced, modifyCell]
  | _ =>
    simp only [SessionTasks.step, Option.ite_none_right_eq_some, Option.some.injEq] at taken
    obtain ⟨enabled, rfl⟩ := taken
    rcases finished with rfl | rfl <;> simp_all [inHandshake]

/-- A step pushes at most one event. -/
theorem pushes_one (taken : s.step action = some outcome) : outcome.2.length ≤ 1 := by
  obtain ⟨cell, task, loop, sent, transfers, call⟩ := s
  cases action with
  | connect => cases task <;> cases cell <;> cases taken <;> simp
  | loop =>
    cases loop with
    | spawned =>
      simp only [SessionTasks.step, loopStep] at taken
      split at taken <;> cases taken <;> simp
    | unspawned | running | ended => cases taken
    | _ =>
      cases taken
      simp
  | call =>
    rcases call with _ | point
    · cases taken
    cases point with
    | takeConnection =>
      simp only [SessionTasks.step, callStep] at taken
      split at taken <;> cases taken <;> simp
    | _ =>
      cases taken
      simp
  | _ =>
    simp only [SessionTasks.step, Option.ite_none_right_eq_some, Option.some.injEq] at taken
    obtain ⟨-, rfl⟩ := taken
    simp

/-- The end is announced by the loop, at a moment without file transfers. -/
theorem announces (regular : Regular s) (meets : calm s action = true)
    (taken : s.step action = some outcome) {event : PushedEvent} (pushed : event ∈ outcome.2)
    (ends : event.isTerminal = true) : Announced outcome.1 := by
  obtain ⟨succeeds, uncancelled, behind⟩ := regular
  obtain ⟨cell, task, loop, sent, transfers, call⟩ := s
  cases action with
  | connect =>
    cases task <;> cases cell <;> cases taken
    all_goals simp_all [PushedEvent.isTerminal]
  | loop =>
    cases loop with
    | spawned =>
      simp only [SessionTasks.step, loopStep] at taken
      split at taken <;> cases taken <;> cases pushed
    | unspawned | running | ended => cases taken
    | unmarked expected =>
      cases taken
      exact ⟨of_decide_eq_true meets, .inl rfl⟩
    | _ =>
      cases taken
      simp_all [PushedEvent.isTerminal]
  | call =>
    rcases call with _ | point
    · cases taken
    cases point with
    | takeConnection =>
      simp only [SessionTasks.step, callStep] at taken
      split at taken <;> cases taken <;> cases pushed
    | reportCancelled => exact absurd rfl uncancelled
    | _ =>
      cases taken
      simp_all [PushedEvent.isTerminal]
  | handshakePushes =>
    simp only [SessionTasks.step, Option.ite_none_right_eq_some, Option.some.injEq,
      Bool.and_eq_true] at taken
    obtain ⟨⟨-, unasked⟩, rfl⟩ := taken
    obtain rfl := List.mem_singleton.mp pushed
    simp [PushedEvent.not_terminal_of_running (.inl unasked)] at ends
  | loopPushes =>
    simp only [SessionTasks.step, Option.ite_none_right_eq_some, Option.some.injEq] at taken
    obtain ⟨⟨-, unasked⟩, rfl⟩ := taken
    obtain rfl := List.mem_singleton.mp pushed
    simp [PushedEvent.not_terminal_of_running (.inr unasked)] at ends
  | transferPushes | transferEnds =>
    simp only [SessionTasks.step, Option.ite_none_right_eq_some, Option.some.injEq] at taken
    obtain ⟨-, rfl⟩ := taken
    obtain rfl := List.mem_singleton.mp pushed
    cases ends
  | _ =>
    simp only [SessionTasks.step, Option.ite_none_right_eq_some, Option.some.injEq] at taken
    obtain ⟨-, rfl⟩ := taken
    cases pushed

end Steps

/-- The tasks and the events of a session while nothing disturbs it. -/
structure Lifecycle (s : SessionTasks) (events : List PushedEvent) : Prop where
  regular : Regular s
  last : events.Pairwise MayFollow
  announced : ∀ event ∈ events, event.isTerminal = true → Announced s

theorem lifecycle_step {s : SessionTasks} {events : List PushedEvent} {action : TaskAction}
    {outcome : Outcome} (lifecycle : Lifecycle s events) (meets : calm s action = true)
    (taken : s.step action = some outcome) : Lifecycle outcome.1 (events ++ outcome.2) := by
  obtain ⟨regular, last, announced⟩ := lifecycle
  refine ⟨regular_step regular meets taken, ?_, ?_⟩
  · refine List.pairwise_append.mpr ⟨last, ?_, ?_⟩
    · have single := pushes_one taken
      match outcome.2, single with
      | [], _ => exact .nil
      | [_], _ => exact List.pairwise_singleton ..
    · intro first before later after ends
      have muted := (announced_step regular (announced first before ends) taken).2 later after
      subst muted
      exact ⟨rfl, rfl⟩
  · intro event inside ends
    rcases List.mem_append.mp inside with before | pushed
    · exact (announced_step regular (announced event before ends) taken).1
    · exact announces regular meets taken pushed ends

/-- An id that was not given out has no tasks. -/
def Unborn (s : SessionTasks) : Prop := s.task = .ended ∧ s.loop = .unspawned

theorem unborn_step {s : SessionTasks} {action : TaskAction} {outcome : Outcome}
    (unborn : Unborn s) (taken : s.step action = some outcome) : Unborn outcome.1 := by
  obtain ⟨cell, task, loop, sent, transfers, call⟩ := s
  obtain ⟨rfl, rfl⟩ := unborn
  cases action with
  | connect | loop => cases taken
  | call =>
    rcases call with _ | point
    · cases taken
    cases point with
    | takeConnection =>
      simp only [SessionTasks.step, callStep] at taken
      split at taken <;> cases taken <;> exact ⟨rfl, rfl⟩
    | _ =>
      cases taken
      simp [Unborn, modifyCell]
  | _ =>
    simp only [SessionTasks.step, Option.ite_none_right_eq_some, Option.some.injEq] at taken
    obtain ⟨enabled, rfl⟩ := taken
    first
      | exact ⟨rfl, rfl⟩
      | simp at enabled

theorem unborn_silent {s : SessionTasks} {events : List PushedEvent} (unborn : Unborn s)
    (lifecycle : Lifecycle s events) {event : PushedEvent} (inside : event ∈ events) :
    event.isTerminal = false := by
  by_contra ends
  obtain ⟨-, past⟩ := lifecycle.announced event inside (by simpa using ends)
  simp [unborn.2] at past

/-- Every session of the engine keeps to its lifecycle. -/
structure Undisturbed (e : NativeEngine) : Prop where
  lifecycle : ∀ cid, Lifecycle (e.sessions cid) (e.eventsOf cid)
  unborn : ∀ cid, e.nextConnectionId ≤ cid → Unborn (e.sessions cid)

theorem undisturbed_new : Undisturbed .new where
  lifecycle _ := ⟨by constructor <;> simp [NativeEngine.new, unopened], .nil, nofun⟩
  unborn _ _ := ⟨rfl, rfl⟩

theorem undisturbed_step {e u : NativeEngine} {action : NativeAction} (before : Undisturbed e)
    (meets : undisturbed e action = true) (taken : e.step action = some u) : Undisturbed u := by
  constructor
  · intro cid
    have lifecycle := before.lifecycle cid
    rcases NativeEngine.seen_of_step taken cid with
      ⟨session, events⟩ | ⟨fresh, session, events⟩ | ⟨point, entry, -, session, events⟩ |
      ⟨outcome, moved, session, events⟩
    · rw [session, events]
      exact lifecycle
    · rw [session, events]
      have unborn := before.unborn cid fresh.ge
      refine ⟨by constructor <;> simp [opened], lifecycle.last, ?_⟩
      intro event inside ends
      simp [unborn_silent unborn lifecycle inside] at ends
    · rw [session, events]
      obtain ⟨⟨succeeds, -, behind⟩, last, announced⟩ := lifecycle
      refine ⟨⟨succeeds, ?_, behind⟩, last, announced⟩
      rcases entry with rfl | rfl <;> simp
    · rw [session, events]
      exact lifecycle_step lifecycle meets moved
  · intro cid unknown
    have unborn := before.unborn cid ((NativeEngine.nextConnectionId_step taken).trans unknown)
    rcases NativeEngine.seen_of_step taken cid with
      ⟨session, -⟩ | ⟨fresh, session, -⟩ | ⟨point, -, -, session, -⟩ | ⟨outcome, moved, session, -⟩
    · exact session ▸ unborn
    · have known := NativeEngine.nextConnectionId_connect taken
      exact absurd (fresh ▸ known) unknown.not_gt
    · rw [session]
      exact unborn
    · exact session ▸ unborn_step unborn moved

theorem count_terminal_le_one {events : List PushedEvent} (last : events.Pairwise MayFollow) :
    events.countP (·.isTerminal) ≤ 1 := by
  induction last with
  | nil => simp
  | @cons first later after _ ih =>
    cases ends : first.isTerminal with
    | false => simpa [List.countP_cons, ends] using ih
    | true =>
      have silent : later.countP (·.isTerminal) = 0 :=
        List.countP_eq_zero.mpr fun event inside => by simp [(after event inside ends).1]
      simp [ends, silent]

theorem Lifecycle.endsOnce {s : SessionTasks} {events : List PushedEvent}
    (lifecycle : Lifecycle s events) : EndsOnce s events where
  once := count_terminal_le_one lifecycle.last
  last := lifecycle.last
  absent := by
    rintro resting ⟨event, inside, ends⟩
    obtain ⟨-, past⟩ := lifecycle.announced event inside ends
    simp only [atRest, Bool.and_eq_true, Bool.or_eq_true, decide_eq_true_eq] at resting
    rcases past with past | past | ⟨gone, -⟩
    · simp [past] at resting
    · simp [past] at resting
    · exact gone

/-- In every run in which no attempt fails, no cancel finds a connect task and no file transfer is
left when the end is announced, each session has at most one terminal event, nothing follows it,
and the session is gone then. -/
theorem session_ends_once {as : List NativeAction} {e : NativeEngine}
    (run : Run NativeEngine.step (fun e action => undisturbed e action = true) .new as e) :
    ∀ cid, EndsOnce (e.sessions cid) (e.eventsOf cid) := by
  have kept : Undisturbed e := run.invariant Undisturbed undisturbed_new
    fun _ _ _ before meets taken => undisturbed_step before meets taken
  exact fun cid => (kept.lifecycle cid).endsOnce

def servedData : ConnectedEvent := ⟨some 7, "", 0, [], []⟩

/-- A successful attempt whose server closes the stream. -/
def servedHistory : List NativeAction :=
  [.connect, .task 1 .call, .task 1 (.handshakeDone servedData)] ++
    List.replicate 6 (.task 1 .connect) ++ List.replicate 2 (.task 1 .loop) ++
    [.task 1 .streamEnds] ++ List.replicate 6 (.task 1 .loop)

theorem served_session_ends_once :
    ∃ e, Run NativeEngine.step (fun e action => undisturbed e action = true) .new
      servedHistory e ∧ e.eventsOf 1 = [.connected servedData, .disconnected false, .diag] ∧
      EndsOnce (e.sessions 1) (e.eventsOf 1) := by
  obtain ⟨e, run, said⟩ := reaches_of_guarded undisturbed (show
    (exec (guarded undisturbed NativeEngine.step) .new servedHistory).any (fun e =>
      e.eventsOf 1 == [.connected servedData, .disconnected false, .diag]) = true by
    decide +kernel)
  exact ⟨e, run, by simpa using said, session_ends_once run 1⟩

/-- A cancel while the connect task runs to its end: the session reports a failure, then
that it is connected, and stays in the table. -/
theorem cancelled_session_goes_on :
    ¬ ∀ (as : List NativeAction) (e : NativeEngine),
      Run NativeEngine.step anyStep .new as e →
      ∀ cid, EndsOnce (e.sessions cid) (e.eventsOf cid) := by
  intro claimed
  obtain ⟨e, run, said⟩ := reaches_of_exec anyStep (fun _ _ _ => trivial) (show
    (exec NativeEngine.step .new
      ([.connect, .task 1 .call, .task 1 (.handshakeDone servedData), .cancelConnect 1] ++
        List.replicate 4 (.task 1 .call) ++ List.replicate 6 (.task 1 .connect))).any (fun e =>
      e.eventsOf 1 == [.connectFailed "cancelled" false, .connected servedData]) = true by
    decide +kernel)
  have last := (claimed _ e run 1).last
  simp only [beq_iff_eq] at said
  rw [said] at last
  simp [MayFollow, PushedEvent.isTerminal, PushedEvent.isLive] at last

end Nek0.Guarantees
