import Nek0.Source.PollApp

/-!
# What happens to the poll timer

A handler leaves `_pollTimer` as it is, cancels it or cancels it and arms it anew (`Reset`). Only
the `finally` of a poll arms it without a cancel.
-/

namespace Nek0.Source.Polling

open Nek0.Library
open Nek0.Library.TimerSlot (Owned Reset)

namespace PollApp

section Handlers

variable {s : PollApp} {cid : ConnectionId} {flags : SessionFlags}

theorem isEmpty_setSession : (s.setSession cid flags).isEmpty = false := by
  have present : cid ∈ (s.sessions.insert cid flags).keys :=
    (LinkedMap.mem_keys ..).mpr (by simp)
  exact List.isEmpty_eq_false_iff.mpr (List.ne_nil_of_mem present)

theorem startPolling_of_isEmpty (empty : s.isEmpty = true) : s.startPolling = s := if_pos empty

theorem startPolling_of_session (nonempty : s.isEmpty = false) :
    s.startPolling = { s with pollTimer := s.pollTimer.rearm } := by
  have same : s.cancelTimer.isEmpty = false := nonempty
  rw [startPolling, nonempty, if_neg Bool.false_ne_true, scheduleNextPoll, same,
    if_neg Bool.false_ne_true]
  rfl

theorem reset_startPolling {timer : TimerSlot} (before : s.pollTimer = timer) :
    Reset timer s.startPolling.pollTimer := by
  subst before
  cases empty : s.isEmpty with
  | true =>
    rw [startPolling_of_isEmpty empty]
    exact .kept
  | false =>
    rw [startPolling_of_session empty]
    exact .rearmed

/-- A change of the foreground restarts the polling as well. -/
theorem onForegroundChanged_eq {foreground : Bool} (changed : s.foreground ≠ foreground) :
    s.onForegroundChanged foreground = { s with foreground := foreground }.startPolling :=
  if_neg changed

/-- `disconnect` of a session that is neither connected nor connecting only writes it. -/
theorem disconnect_eq :
    s.disconnect cid =
      if (s.stateOf cid).connected || (s.stateOf cid).connecting then
        ((s.setSession cid (s.stateOf cid)).cancelTimer.setSession cid
          { s.stateOf cid with connecting := false }).startPolling
      else s.setSession cid (s.stateOf cid) := by
  have same : (s.setSession cid (s.stateOf cid)).stateOf cid = s.stateOf cid := by
    simp [stateOf, setSession]
  rw [disconnect, same]

theorem reset_disconnect {timer : TimerSlot} (before : s.pollTimer = timer) :
    Reset timer (s.disconnect cid).pollTimer := by
  subst before
  rw [disconnect_eq]
  split
  · rw [startPolling_of_session isEmpty_setSession]
    have anew : Reset s.pollTimer s.pollTimer.rearm := .rearmed
    rwa [← TimerSlot.rearm_cancel] at anew
  · exact .kept

end Handlers

section Calls

variable {s : PollApp} {call : Call}

theorem reset_handleCall : Reset s.pollTimer (s.handleCall call).pollTimer := by
  cases call with
  | connect cid =>
    rw [handleCall, connect]
    exact reset_startPolling rfl
  | refreshRoster cid =>
    simp only [handleCall, refreshRoster]
    split
    · exact reset_startPolling rfl
    · exact .kept
  | disconnect cid => exact reset_disconnect rfl
  | cancelConnect cid =>
    simp only [handleCall, cancelConnect]
    split
    · exact .cancelled
    · exact .kept
  | onForegroundChanged foreground =>
    by_cases same : s.foreground = foreground
    · rw [handleCall, onForegroundChanged, if_pos same]
      exact .kept
    · rw [handleCall, onForegroundChanged_eq same]
      exact reset_startPolling rfl
  | onNativeEventsAvailable =>
    simp only [handleCall, onNativeEventsAvailable]
    split <;> exact .kept
  | write cid flags => exact .kept

theorem reset_handleEvent {cid : ConnectionId} {event : Event} :
    Reset s.pollTimer (s.handleEvent cid event).pollTimer := by
  rw [handleEvent]
  split
  · exact .kept
  · cases event with
    | connected hostMessage hostMessageMode =>
      simp only [handleKnown]
      split
      · exact reset_disconnect rfl
      · exact .kept
    | connectFailed => exact .cancelled
    | disconnected =>
      simp only [handleKnown]
      split
      · exact .kept
      · split <;> exact .cancelled
    | error =>
      simp only [handleKnown]
      split
      · exact .cancelled
      · exact .kept
    | clientUpdated =>
      simp only [handleKnown, refreshRoster]
      split
      · exact reset_startPolling rfl
      · exact .kept
    | other writes =>
      simp only [handleKnown]
      split <;> exact .kept

end Calls

section Armed

/-- The event starts the polling: the groups of a client changed, or the server asks to leave. -/
def arms (s : PollApp) (cid : ConnectionId) : Event → Bool
  | .connected hostMessage hostMessageMode => hostMessage ≠ "" && hostMessageMode = 3
  | .clientUpdated => cid ∈ s.rt && !s.isEmpty
  | _ => false

/-- The event cancels the timer and does not arm it. -/
def stops (s : PollApp) (cid : ConnectionId) : Event → Bool
  | .connectFailed => true
  | .disconnected => !(s.stateOf cid).connecting
  | .error => (s.stateOf cid).connecting
  | _ => false

/-- The timer is pending after an event that arms it, or if it was and the event does not stop
it. -/
theorem pending_handleKnown_iff {s : PollApp} {cid : ConnectionId} {event : Event}
    (owned : Owned s.pollTimer) :
    (s.handleKnown cid event).pollTimer.pending ≠ [] ↔
      arms s cid event = true ∨ s.pollTimer.pending ≠ [] ∧ stops s cid event = false := by
  have cancelled := owned.pending_cancel
  cases event with
  | connected hostMessage hostMessageMode =>
    simp only [handleKnown]
    by_cases leaves : hostMessage ≠ "" ∧ hostMessageMode = 3
    · have connected : ((s.setSession cid ⟨false, true⟩).stateOf cid).connected = true := by
        simp [stateOf, setSession]
      rw [if_pos leaves, disconnect_eq, connected, Bool.true_or, if_pos rfl,
        startPolling_of_session isEmpty_setSession]
      have armed : s.pollTimer.cancel.rearm.pending ≠ [] := by simp [owned.cancel.pending_rearm]
      exact iff_of_true armed (.inl (by simp [arms, leaves]))
    · rw [if_neg leaves]
      have stays : arms s cid (.connected hostMessage hostMessageMode) = false := by
        simpa [arms] using leaves
      simp [stays, stops, setSession]
  | connectFailed => simp [handleKnown, cancelTimer, setSession, arms, stops, cancelled]
  | disconnected =>
    cases connecting : (s.stateOf cid).connecting with
    | true => simp [handleKnown, arms, stops, connecting]
    | false =>
      simp only [handleKnown, connecting, Bool.false_eq_true, if_false]
      split <;> simp [cancelTimer, setSession, arms, stops, connecting, cancelled]
  | error =>
    cases connecting : (s.stateOf cid).connecting with
    | true => simp [handleKnown, cancelTimer, setSession, arms, stops, connecting, cancelled]
    | false => simp [handleKnown, setSession, arms, stops, connecting]
  | clientUpdated =>
    simp only [handleKnown, refreshRoster, arms, stops]
    by_cases known : cid ∈ s.rt
    · rw [if_pos known]
      cases empty : s.isEmpty with
      | true => simp [startPolling_of_isEmpty empty]
      | false => simp [startPolling_of_session empty, owned.pending_rearm, known]
    · simp [known]
  | other writes =>
    simp only [handleKnown, arms, stops]
    split <;> simp [setSession]

end Armed

section Polling

variable {s : PollApp}

theorem polling_startPolling : s.startPolling.polling = s.polling := by
  cases empty : s.isEmpty with
  | true => rw [startPolling_of_isEmpty empty]
  | false => rw [startPolling_of_session empty]

theorem polling_disconnect {cid : ConnectionId} : (s.disconnect cid).polling = s.polling := by
  rw [disconnect_eq]
  split
  · exact polling_startPolling
  · rfl

theorem polling_handleCall {call : Call} : (s.handleCall call).polling = s.polling := by
  cases call with
  | connect cid =>
    rw [handleCall, connect]
    exact polling_startPolling
  | refreshRoster cid =>
    simp only [handleCall, refreshRoster]
    split
    · exact polling_startPolling
    · rfl
  | disconnect cid => exact polling_disconnect
  | cancelConnect cid =>
    simp only [handleCall, cancelConnect]
    split <;> rfl
  | onForegroundChanged foreground =>
    by_cases same : s.foreground = foreground
    · rw [handleCall, onForegroundChanged, if_pos same]
    · rw [handleCall, onForegroundChanged_eq same]
      exact polling_startPolling
  | onNativeEventsAvailable =>
    simp only [handleCall, onNativeEventsAvailable]
    split <;> rfl
  | write cid flags => rfl

/-- A poll goes on after an event. -/
theorem polling_handleEvent {cid : ConnectionId} {event : Event} :
    (s.handleEvent cid event).polling = s.polling := by
  rw [handleEvent]
  split
  · rfl
  · cases event with
    | connected hostMessage hostMessageMode =>
      simp only [handleKnown]
      split
      · exact polling_disconnect
      · rfl
    | connectFailed => rfl
    | disconnected =>
      simp only [handleKnown]
      split
      · rfl
      · split <;> rfl
    | error =>
      simp only [handleKnown]
      split <;> rfl
    | clientUpdated =>
      simp only [handleKnown, refreshRoster]
      split
      · exact polling_startPolling
      · rfl
    | other writes =>
      simp only [handleKnown]
      split <;> rfl

end Polling

/-- Every step but the end of a poll leaves the timer, cancels it, arms it anew or is its firing. -/
theorem timer_step {s t : PollApp} {action : Action} (taken : s.step action = some t)
    (running : action ≠ .endPoll) :
    Reset s.pollTimer t.pollTimer ∨ ∃ timer, t.pollTimer = s.pollTimer.fire timer := by
  cases action with
  | call call =>
    simp only [step, Option.ite_none_left_eq_some, Option.some.injEq] at taken
    obtain ⟨-, rfl⟩ := taken
    exact .inl reset_handleCall
  | wakeUp =>
    simp only [step, Option.ite_none_right_eq_some, Option.some.injEq] at taken
    obtain ⟨-, rfl⟩ := taken
    refine .inl ?_
    rw [wakeUp]
    dsimp only
    split
    · exact .kept
    · exact .cancelled
  | fire timer =>
    simp only [step, Option.ite_none_right_eq_some, Option.some.injEq] at taken
    obtain ⟨-, rfl⟩ := taken
    exact .inr ⟨timer, rfl⟩
  | event cid event =>
    simp only [step, Option.ite_none_right_eq_some, Option.some.injEq] at taken
    obtain ⟨-, rfl⟩ := taken
    exact .inl reset_handleEvent
  | endPoll => exact (running rfl).elim

/-- The `finally` arms the timer without a cancel. -/
theorem endPoll_step {s t : PollApp} (taken : s.step .endPoll = some t) :
    t.sessions = s.sessions ∧ t.polling = false ∧
      t.pollTimer = if s.isEmpty then s.pollTimer else s.pollTimer.arm := by
  simp only [step, Option.ite_none_right_eq_some, Option.some.injEq] at taken
  obtain ⟨-, rfl⟩ := taken
  have same : { s with polling := false }.isEmpty = s.isEmpty := rfl
  rw [scheduleNextPoll, same]
  split <;> exact ⟨rfl, rfl, rfl⟩

/-- A wake-up with no session polls nothing. -/
theorem wakeUp_of_isEmpty {s : PollApp} (empty : s.isEmpty = true) :
    s.wakeUp = { s with nativeWakeScheduled := false } := if_pos empty

theorem wakeUp_of_session {s : PollApp} (nonempty : s.isEmpty = false) :
    s.wakeUp = { s with
      nativeWakeScheduled := false, pollTimer := s.pollTimer.cancel, polling := true } :=
  if_neg (ne_true_of_eq_false nonempty)

end PollApp

end Nek0.Source.Polling
