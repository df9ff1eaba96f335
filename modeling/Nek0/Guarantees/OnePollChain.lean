import Nek0.Library.Run
import Nek0.Source.PollEffects

/-!
# One chain of polls

Every handler cancels the timer before it arms it, except the `finally` of a poll. When an event of
the poll has armed the timer, the `finally` arms a second one that nothing can cancel any more, and
both chains go on. A write can also bring a session back after the last one was removed and the
timer with it.
-/

namespace Nek0.Guarantees

open Nek0.Library Nek0.Source.Polling Nek0.Source.Polling.PollApp
open Nek0.Library.TimerSlot (Owned Reset)
open Nek0.Source (ConnectionId)

/-- A poll is due, running or about to run. -/
def driven (s : PollApp) : Bool :=
  s.pollTimer.pending ≠ [] || s.polling || s.nativeWakeScheduled

/-- At most one timer is pending, and while there is a session there is a next poll. -/
structure OneChain (s : PollApp) : Prop where
  alone : s.pollTimer.pending.length ≤ 1
  driven : s.isEmpty = false → driven s = true

/-- The step leads from one chain to one chain. -/
def leadsOn (s : PollApp) : PollApp.Action → Bool
  | .endPoll => s.pollTimer.pending = [] || s.isEmpty
  | .call (.disconnect _) => !s.isEmpty || driven s
  | .call (.write ..) => !s.isEmpty || driven s
  | _ => true

section Steps

variable {s t : PollApp} {action : PollApp.Action}

theorem driven_startPolling (owned : Owned s.pollTimer)
    (session : s.startPolling.isEmpty = false) : driven s.startPolling = true := by
  cases empty : s.isEmpty with
  | true =>
    rw [startPolling_of_isEmpty empty, empty] at session
    cases session
  | false =>
    rw [startPolling_of_session empty]
    simp [driven, owned.pending_rearm]

theorem owned_step (owned : Owned s.pollTimer) (taken : s.step action = some t)
    (chain : OneChain t) : Owned t.pollTimer := by
  by_cases ending : action = .endPoll
  · subst ending
    have armed := (endPoll_step taken).2.2
    have alone := chain.alone
    cases empty : s.isEmpty with
    | true =>
      rw [empty, if_pos rfl] at armed
      exact armed ▸ owned
    | false =>
      rw [empty, if_neg Bool.false_ne_true] at armed
      rw [armed] at alone ⊢
      exact TimerSlot.owned_arm (TimerSlot.arm_alone_iff.mp alone)
  · rcases timer_step taken ending with reset | ⟨timer, fired⟩
    · exact reset.owned owned
    · exact fired ▸ owned.fire timer

theorem alone_step (owned : Owned s.pollTimer) (chain : OneChain s)
    (taken : s.step action = some t) (running : action ≠ .endPoll) :
    t.pollTimer.pending.length ≤ 1 := by
  rcases timer_step taken running with reset | ⟨timer, fired⟩
  · exact reset.alone owned chain.alone
  · rw [fired]
    exact (TimerSlot.length_fire_le timer).trans chain.alone

/-- A call leads on unless it writes a session back that nothing polls for. -/
theorem driven_handleCall {call : Call} (owned : Owned s.pollTimer) (chain : OneChain s) :
    ((s.handleCall call).isEmpty = false → driven (s.handleCall call) = true) ↔
      leadsOn s (.call call) = true := by
  have written {cid : ConnectionId} {flags : SessionFlags} :
      ((s.setSession cid flags).isEmpty = false → driven (s.setSession cid flags) = true) ↔
        (!s.isEmpty || driven s) = true := by
    have same : driven (s.setSession cid flags) = driven s := rfl
    rw [isEmpty_setSession, same]
    cases empty : s.isEmpty with
    | true => simp
    | false => simp [chain.driven empty]
  cases call with
  | connect cid =>
    simp only [leadsOn, iff_true, handleCall, connect]
    exact driven_startPolling owned
  | refreshRoster cid =>
    simp only [leadsOn, iff_true, handleCall, refreshRoster]
    split
    · exact driven_startPolling owned
    · exact chain.driven
  | disconnect cid =>
    simp only [handleCall]
    by_cases leaves : ((s.stateOf cid).connected || (s.stateOf cid).connecting) = true
    · have present : s.isEmpty = false := by
        cases found : s.sessions.find cid with
        | none => simp [stateOf, found] at leaves
        | some flags =>
          have listed := (s.sessions.mem_keys cid).mpr (by simp [found])
          exact List.isEmpty_eq_false_iff.mpr (List.ne_nil_of_mem listed)
      rw [disconnect_eq, if_pos leaves]
      simp only [leadsOn, present, Bool.not_false, Bool.true_or, iff_true]
      exact driven_startPolling owned.cancel
    · rw [disconnect_eq, if_neg leaves]
      exact written
  | cancelConnect cid =>
    simp only [leadsOn, iff_true, handleCall, cancelConnect]
    split
    · rename_i removed
      intro session
      exact absurd removed (ne_true_of_eq_false session)
    · intro others
      cases empty : s.isEmpty with
      | false => exact chain.driven empty
      | true =>
        have none : s.sessions.keys = [] := List.isEmpty_iff.mp empty
        simp [isEmpty, LinkedMap.erase, none] at others
  | onForegroundChanged foreground =>
    simp only [leadsOn, iff_true, handleCall]
    by_cases same : s.foreground = foreground
    · rw [onForegroundChanged, if_pos same]
      exact chain.driven
    · rw [onForegroundChanged_eq same]
      exact driven_startPolling owned
  | onNativeEventsAvailable =>
    simp only [leadsOn, iff_true, handleCall, onNativeEventsAvailable]
    split
    · exact chain.driven
    · simp [driven]
  | write cid flags => exact written

/-- Each step keeps the chain single and going exactly if it meets the condition. -/
theorem oneChain_step_iff (owned : Owned s.pollTimer) (chain : OneChain s)
    (taken : s.step action = some t) : OneChain t ↔ leadsOn s action = true := by
  cases action with
  | call call =>
    have alone := alone_step owned chain taken (by rintro ⟨⟩)
    simp only [step, Option.ite_none_left_eq_some, Option.some.injEq] at taken
    obtain ⟨-, rfl⟩ := taken
    rw [← driven_handleCall owned chain]
    exact ⟨OneChain.driven, OneChain.mk alone⟩
  | wakeUp =>
    have alone := alone_step owned chain taken (by rintro ⟨⟩)
    simp only [step, Option.ite_none_right_eq_some, Option.some.injEq] at taken
    obtain ⟨-, rfl⟩ := taken
    refine iff_of_true ⟨alone, ?_⟩ rfl
    cases empty : s.isEmpty with
    | true =>
      intro session
      rw [wakeUp_of_isEmpty empty] at session
      exact absurd empty (ne_true_of_eq_false session)
    | false =>
      rw [wakeUp_of_session empty]
      simp [driven]
  | fire timer =>
    have alone := alone_step owned chain taken (by rintro ⟨⟩)
    simp only [step, Option.ite_none_right_eq_some, Option.some.injEq] at taken
    obtain ⟨-, rfl⟩ := taken
    exact iff_of_true ⟨alone, fun _ => by simp [driven]⟩ rfl
  | event cid event =>
    have alone := alone_step owned chain taken (by rintro ⟨⟩)
    simp only [step, Option.ite_none_right_eq_some, Option.some.injEq] at taken
    obtain ⟨running, rfl⟩ := taken
    exact iff_of_true ⟨alone, fun _ => by simp [driven, polling_handleEvent, running]⟩ rfl
  | endPoll =>
    obtain ⟨sessions, -, armed⟩ := endPoll_step taken
    have same : t.isEmpty = s.isEmpty := by rw [isEmpty, sessions, isEmpty]
    cases empty : s.isEmpty with
    | true =>
      rw [empty, if_pos rfl] at armed
      refine iff_of_true ⟨armed ▸ chain.alone, fun session => ?_⟩ (by simp [leadsOn, empty])
      rw [same, empty] at session
      cases session
    | false =>
      rw [empty, if_neg Bool.false_ne_true] at armed
      have goes : driven t = true := by simp [driven, armed, TimerSlot.arm]
      simp only [leadsOn, empty, Bool.or_false, decide_eq_true_eq]
      rw [← TimerSlot.arm_alone_iff, ← armed]
      exact ⟨OneChain.alone, fun alone => ⟨alone, fun _ => goes⟩⟩

end Steps

/-- The app with whether an event of the last poll armed the timer and no later one stopped it. -/
structure PollHistory where
  app : PollApp
  armed : Bool

namespace PollHistory

def start : PollHistory := ⟨.build, false⟩

def arm (k : PollHistory) : PollApp.Action → Bool
  | .wakeUp => false
  | .fire _ => false
  | .event cid event =>
    if cid ≠ 0 ∧ cid ∉ k.app.rt then k.armed
    else arms k.app cid event || k.armed && !stops k.app cid event
  | _ => k.armed

def step (k : PollHistory) (action : PollApp.Action) : Option PollHistory :=
  (k.app.step action).map fun app => ⟨app, k.arm action⟩

end PollHistory

/-- No poll ends with the timer armed by one of its events. A session is not written back after
the last one was removed, unless a wake-up is still scheduled. -/
def keepsChain (k : PollHistory) : PollApp.Action → Bool
  | .endPoll => !k.armed || k.app.isEmpty
  | action => leadsOn k.app action

/-- The timer is in the variable, and during a poll it is pending only if an event armed it. -/
structure TimerKnown (k : PollHistory) : Prop where
  owned : Owned k.app.pollTimer
  armed : k.app.polling = true → (k.app.pollTimer.pending ≠ [] ↔ k.armed = true)

section TimerKnown

variable {k after : PollHistory} {action : PollApp.Action}

theorem timerKnown_step (known : TimerKnown k) (taken : k.step action = some after)
    (chain : OneChain after.app) : TimerKnown after := by
  obtain ⟨app, moved, rfl⟩ := Option.map_eq_some_iff.mp taken
  have owned := known.owned
  refine ⟨owned_step owned moved chain, fun running => ?_⟩
  cases action with
  | call call =>
    simp only [PollApp.step, Option.ite_none_left_eq_some, Option.some.injEq] at moved
    obtain ⟨idle, rfl⟩ := moved
    rw [polling_handleCall] at running
    exact absurd running idle
  | wakeUp =>
    simp only [PollApp.step, Option.ite_none_right_eq_some, Option.some.injEq, Bool.and_eq_true,
      Bool.not_eq_true'] at moved
    obtain ⟨⟨idle, -⟩, rfl⟩ := moved
    cases empty : k.app.isEmpty with
    | true =>
      rw [wakeUp_of_isEmpty empty] at running
      exact absurd running (ne_true_of_eq_false idle)
    | false =>
      rw [wakeUp_of_session empty]
      simp [PollHistory.arm, owned.pending_cancel]
  | fire timer =>
    simp only [PollApp.step, Option.ite_none_right_eq_some, Option.some.injEq, Bool.and_eq_true,
      decide_eq_true_eq] at moved
    obtain ⟨⟨-, pending⟩, rfl⟩ := moved
    simp [PollHistory.arm, owned.pending_fire pending]
  | event cid event =>
    simp only [PollApp.step, Option.ite_none_right_eq_some, Option.some.injEq] at moved
    obtain ⟨polling, rfl⟩ := moved
    have before := known.armed polling
    by_cases unknown : cid ≠ 0 ∧ cid ∉ k.app.rt
    · simp only [PollHistory.arm, handleEvent, if_pos unknown]
      exact before
    · simp only [PollHistory.arm, handleEvent, if_neg unknown]
      rw [pending_handleKnown_iff owned, before]
      simp
  | endPoll =>
    rw [(endPoll_step moved).2.1] at running
    cases running

/-- What the events of a poll say about the timer is the state it is in. -/
theorem keepsChain_eq {t : PollApp} (known : TimerKnown k) (moved : k.app.step action = some t) :
    keepsChain k action = leadsOn k.app action := by
  cases action with
  | endPoll =>
    simp only [PollApp.step, Option.ite_none_right_eq_some] at moved
    have armed := known.armed moved.1
    simp only [keepsChain, leadsOn]
    cases pending : k.armed with
    | true =>
      have pending : k.app.pollTimer.pending ≠ [] := armed.mpr pending
      simp [pending]
    | false =>
      have idle : k.app.pollTimer.pending = [] := by simpa [pending] using armed
      simp [idle]
  | _ => rfl

end TimerKnown

/-- In every run there is one chain of polls at every moment exactly if no poll ends with the timer
armed by one of its events and no session is written back that nothing polls for. -/
theorem one_poll_chain_iff (actions : List PollApp.Action) (k : PollHistory)
    (run : Run PollHistory.step anyStep .start actions k) :
    (∀ earlier l, earlier <+: actions → Run PollHistory.step anyStep .start earlier l →
      OneChain l.app) ↔
      Run PollHistory.step (fun l action => keepsChain l action = true) .start actions k := by
  refine run.always_iff_of_kept TimerKnown ⟨TimerSlot.owned_empty, (nomatch ·)⟩
    ⟨Nat.zero_le 1, (nomatch ·)⟩
    (fun _ _ _ known _ taken chain => timerKnown_step known taken chain) ?_
  intro l action after known chain taken
  obtain ⟨app, moved, rfl⟩ := Option.map_eq_some_iff.mp taken
  rw [keepsChain_eq known moved]
  exact oneChain_step_iff known.owned chain moved

/-- The app is woken up, goes to the background and refreshes the roster. A client changes its
groups in the very poll in which the session ends. -/
def quietPolls : List PollApp.Action :=
  [.call (.connect 1), .fire 0, .event 1 (.other true), .event 1 (.connected "welcome" 1), .endPoll,
    .call .onNativeEventsAvailable, .wakeUp, .event 1 (.other true), .endPoll,
    .call (.onForegroundChanged false), .fire 3, .endPoll, .call (.refreshRoster 1), .fire 5,
    .event 1 .clientUpdated, .event 1 .disconnected, .endPoll, .call (.disconnect 1)]

theorem quiet_polls_form_one_chain :
    ∃ k, Run PollHistory.step anyStep .start quietPolls k ∧ k.app.pollTimer.pending = [7] ∧
      OneChain k.app := by
  obtain ⟨k, run, reached⟩ := reaches_of_guarded keepsChain (show
    (exec (guarded keepsChain PollHistory.step) .start quietPolls).any (fun k =>
      k.app.pollTimer.pending = [7]) = true by
    decide +kernel)
  have visited := run.weaken fun _ _ _ => trivial
  exact ⟨k, visited, of_decide_eq_true reached,
    (one_poll_chain_iff quietPolls k visited).mpr run quietPolls k List.prefix_rfl visited⟩

/-- The groups of a client change while the app polls. -/
def doubledPolls : List PollApp.Action :=
  [.call (.connect 1), .fire 0, .event 1 (.connected "" 0), .event 1 .clientUpdated, .endPoll,
    .fire 2, .endPoll, .fire 1, .endPoll]

/-- Both timers keep firing and being armed again. -/
theorem client_update_doubles_polls :
    ∃ k, Run PollHistory.step anyStep .start doubledPolls k ∧ k.app.pollTimer.pending = [3, 4] ∧
      ¬ OneChain k.app := by
  obtain ⟨k, run, reached⟩ := reaches_of_exec anyStep (fun _ _ _ => trivial) (show
    (exec PollHistory.step .start doubledPolls).any (fun k =>
      k.app.pollTimer.pending = [3, 4]) = true by
    decide +kernel)
  have pending := of_decide_eq_true reached
  refine ⟨k, run, pending, fun chain => ?_⟩
  have alone := chain.alone
  rw [pending] at alone
  exact absurd alone (by decide)

end Nek0.Guarantees
