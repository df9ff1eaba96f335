import Nek0.Library.Run
import Nek0.Source.NotifierEffects

/-!
# A stop of the user is final

Disconnecting, cancelling and switching the automatic reconnect off all cancel
the timer of a session, and from then on the app calls `connect` for it only
where a later step brings the session back: the network returns while the record
still waits in the reconnecting phase, or a failure event arrives that the record
still answers with an automatic attempt.
-/

namespace Nek0.Guarantees

open Nek0.Source Nek0.Source.Notifier Nek0.Library

/-- The calls of `connect` made on behalf of a session. -/
def callsFor (s : Notifier) (cid : ConnectionId) : List ConnectCall :=
  s.connectCalls.filter fun call => call.origin.session = some cid

/-- The user stops a session. -/
def Stops (cid : ConnectionId) : Action → Prop
  | .disconnect stopped => stopped = cid
  | .cancelConnect stopped => stopped = cid
  | .setAutoReconnect stopped enabled => stopped = cid ∧ enabled = false
  | _ => False

/-- The user asks for a session again. -/
def AsksFor (cid : ConnectionId) : Action → Prop
  | .retryNow asked => asked = cid
  | .setAutoReconnect asked enabled => asked = cid ∧ enabled = true
  | _ => False

/-- What happens without the user: timers, connectivity, engine events and the
calls of `connect` that were already made. -/
def ByItself : Action → Prop
  | .timer _ | .network _ | .event .. | .completeConnect .. => True
  | _ => False

/-- The record of a session waits for a reconnect. -/
def Waits (s : Notifier) (cid : ConnectionId) : Prop :=
  (s.rt.find cid).isSome = true ∧ (s.stateOf cid).phase = .reconnecting

/-- The step does not bring a session back: the user does not ask for it, the
network does not return while it waits for a reconnect, and no failure of it
arrives that is answered with an automatic attempt. -/
def LeavesAlone (cid : ConnectionId) (s : Notifier) : Action → Prop
  | .network status => s.network.available = false → status.available = true → ¬ Waits s cid
  | .event failed event _ => failed = cid → s.reconnects cid event = false
  | action => ¬ AsksFor cid action

/-- The session has no armed timer and no call beyond the given ones. -/
structure Stopped (cid : ConnectionId) (calls : List ConnectCall) (s : Notifier) : Prop where
  timer : s.timerOf cid = none
  calls : callsFor s cid = calls

theorem Stopped.quiet {cid : ConnectionId} {calls : List ConnectCall} {s t : Notifier}
    (stopped : Stopped cid calls s) (quiet : Quiet s t) : Stopped cid calls t := by
  refine ⟨?_, by rw [← stopped.calls, callsFor, callsFor, quiet.connectCalls]⟩
  rcases quiet.timerOf cid with same | gone
  · rw [same, stopped.timer]
  · exact gone

/-- A call that another session or the user makes. -/
theorem Stopped.calls_other {cid : ConnectionId} {calls : List ConnectCall} {s t : Notifier}
    {call : ConnectCall} (stopped : Stopped cid calls s) (made : Calls s t call)
    (other : call.origin.session ≠ some cid) : Stopped cid calls t := by
  refine ⟨?_, ?_⟩
  · rcases made.timerOf cid with same | gone
    · rw [same, stopped.timer]
    · exact gone
  · simp [callsFor, made.connectCalls, other, ← stopped.calls]

theorem Stopped.retryNow {cid other : ConnectionId} {calls : List ConnectCall} {s : Notifier}
    (stopped : Stopped cid calls s) (different : other ≠ cid) :
    Stopped cid calls (s.retryNow other) := by
  rcases s.retryNow_cases other with same | ⟨rt, request, _, _, called⟩
  · rw [same]
    exact stopped
  · rw [called]
    refine stopped.calls_other (calls_repeatConnect ..) ?_
    simpa [nextCall, Origin.session] using different

/-- Retrying another session does not make a session wait. -/
theorem not_waits_retryNow {cid other : ConnectionId} {s : Notifier} (rests : ¬ Waits s cid)
    (different : other ≠ cid) : ¬ Waits (s.retryNow other) cid := by
  rcases s.retryNow_cases other with same | ⟨rt, request, _, _, called⟩
  · rwa [same]
  · rwa [called, Waits, stateOf_repeatConnect, find_repeatConnect_of_ne _ _ _ _ different.symm]

/-- The network returns: every waiting session is retried, a stopped one that
does not wait is left alone. -/
theorem Stopped.retryAll {cid : ConnectionId} {calls : List ConnectCall} {s : Notifier}
    (stopped : Stopped cid calls s) (rests : ¬ Waits s cid) (cids : List ConnectionId) :
    Stopped cid calls (cids.foldl retryWaiting s) := by
  induction cids generalizing s with
  | nil => exact stopped
  | cons other rest ih =>
    rw [List.foldl_cons, retryWaiting]
    split
    next waiting =>
      by_cases same : other = cid
      · subst same
        have absent : s.rt.find other = none := by
          simpa [Waits, waiting] using rests
        have idle : s.retryNow other = s := by simp [Notifier.retryNow, absent]
        rw [idle]
        exact ih stopped rests
      · exact ih (stopped.retryNow same) (not_waits_retryNow rests same)
    next => exact ih stopped rests

theorem Stopped.network {cid : ConnectionId} {calls : List ConnectCall} {s : Notifier}
    {status : NetworkStatus} (stopped : Stopped cid calls s)
    (alone : LeavesAlone cid s (.network status)) :
    Stopped cid calls (s.onNetworkChanged status) := by
  unfold onNetworkChanged
  have noted := stopped.quiet (s.quiet_noteNetwork status)
  dsimp only
  split
  · exact noted.quiet (quiet_foldl quiet_dropForHandover _ _)
  · split
    · exact noted.quiet (quiet_foldl quiet_stopCountdown _ _)
    next up =>
      split
      next down =>
        have rests : ¬ Waits s cid := alone (by simpa using down) (by simpa using up)
        exact noted.retryAll rests _
      · exact noted

theorem Stopped.completeConnect {cid : ConnectionId} {calls : List ConnectCall} {s : Notifier}
    (stopped : Stopped cid calls s) (call : ConnectCall) (reply : Option ConnectionId) :
    Stopped cid calls (s.completeConnect call reply) := by
  rcases s.completeConnect_cases call reply with
    ⟨_, failed⟩ | ⟨new, _, _, _, sameCalls, _, _, _, inserted, _⟩
  · rw [failed]
    exact ⟨stopped.timer, stopped.calls⟩
  · refine ⟨?_, by rw [← stopped.calls, callsFor, callsFor, sameCalls]⟩
    by_cases same : cid = new
    · simp [timerOf, inserted, same]
    · simpa [timerOf, inserted, same] using stopped.timer

/-- One step that leaves the session alone keeps it stopped. -/
theorem Stopped.step {cid : ConnectionId} {calls : List ConnectCall} {s t : Notifier}
    {action : Action} (stopped : Stopped cid calls s) (alone : LeavesAlone cid s action)
    (taken : s.step action = some t) : Stopped cid calls t := by
  cases action with
  | connect request =>
    cases taken
    exact stopped.calls_other (s.calls_connect request) (by simp [nextCall, Origin.session])
  | completeConnect call reply =>
    obtain ⟨-, rfl⟩ := step_completeConnect taken
    exact stopped.completeConnect call reply
  | disconnect other =>
    cases taken
    exact stopped.quiet (quiet_disconnect ..)
  | cancelConnect other =>
    cases taken
    exact stopped.quiet (quiet_cancelConnect ..)
  | retryNow other =>
    cases taken
    exact stopped.retryNow alone
  | setAutoReconnect other enabled =>
    cases taken
    exact stopped.quiet (quiet_setAutoReconnect ..)
  | loadReconnectPreference =>
    cases taken
    exact stopped.quiet (quiet_loadReconnectPreference s)
  | timer fired =>
    obtain ⟨rt, timer, found, armed, rfl⟩ := step_timer taken
    have different : fired ≠ cid := by
      rintro rfl
      simpa [timerOf, found, armed] using stopped.timer
    rcases s.timerFired_cases fired rt timer with silent | called
    · rw [silent]
      exact stopped.quiet (quiet_cancelTimer ..)
    · rw [called]
      exact stopped.calls_other (calls_repeatConnect ..)
        (by simpa [nextCall, Origin.session] using different)
  | network status =>
    cases taken
    exact stopped.network alone
  | event failed event env =>
    cases taken
    rcases s.handleEvent_cases failed event env with quiet | ⟨answers, chain, request, arms⟩
    · exact stopped.quiet quiet
    · have different : cid ≠ failed := by
        rintro rfl
        simp [alone rfl] at answers
      refine ⟨?_, by rw [← stopped.calls, callsFor, callsFor, arms.connectCalls]⟩
      cases found : (s.handleEvent failed event env).rt.find cid with
      | none => simp [timerOf, found]
      | some after =>
        obtain ⟨before, foundBefore, _, _, timer⟩ := arms.others cid after different found
        have unarmed : before.reconnectTimer = none := by
          simpa [timerOf, foundBefore] using stopped.timer
        rcases timer with same | gone
        · simp [timerOf, found, same, unarmed]
        · simp [timerOf, found, gone]

/-- Every stop of the user cancels the timer of the session and calls nothing. -/
theorem stopped_of_stops {cid : ConnectionId} {s t : Notifier} {stop : Action}
    (stops : Stops cid stop) (taken : s.step stop = some t) :
    Stopped cid (callsFor t cid) t := by
  refine ⟨?_, rfl⟩
  cases stop with
  | disconnect stopped =>
    obtain rfl : stopped = cid := stops
    cases taken
    exact timerOf_disconnect ..
  | cancelConnect stopped =>
    obtain rfl : stopped = cid := stops
    cases taken
    simp [timerOf, cancelConnect]
  | setAutoReconnect stopped enabled =>
    obtain ⟨rfl, rfl⟩ := stops
    cases taken
    exact timerOf_setAutoReconnect_off ..
  | _ => exact stops.elim

/-- After a stop of the user, in every run whose steps leave the session alone,
`connect` is never called again on behalf of the session. -/
theorem stop_is_final {cid : ConnectionId} {s₀ s t : Notifier} {stop : Action}
    {later : List Action} (stops : Stops cid stop) (taken : s₀.step stop = some s)
    (run : Run Notifier.step (LeavesAlone cid) s later t) : callsFor t cid = callsFor s cid :=
  (run.invariant (Stopped cid (callsFor s cid)) (stopped_of_stops stops taken)
    fun _ _ _ stopped alone next => stopped.step alone next).calls

/-- The environment of the example runs. -/
def quietEnv : Ambient := ⟨0, ⟨0, by norm_num, by norm_num⟩⟩

def exampleRequest : ConnectRequest := ⟨"ts.example:9987", "ann", none, none, none⟩

/-- A session that was connected and then lost, with its timer armed. -/
def lostHistory : List Action :=
  [.connect exampleRequest, .completeConnect ⟨0, exampleRequest, .user, 0⟩ (some 1),
    .event 1 (.connected ⟨some 7, "", 0, [], []⟩) quietEnv,
    .event 1 (.disconnected false) quietEnv]

/-- The user stops the lost session while the network is up. -/
theorem stop_is_final_online :
    ∃ s₀ s t, Run Notifier.step anyStep .build lostHistory s₀ ∧
      s₀.step (.disconnect 1) = some s ∧
      Run Notifier.step (LeavesAlone 1) s [.network ⟨true, "wifi", "9"⟩] t ∧
      callsFor t 1 = callsFor s 1 := by
  obtain ⟨s₀, before, online⟩ := reaches_of_exec anyStep (fun _ _ _ => trivial) (show
    (exec Notifier.step .build lostHistory).any (fun s => s.network.available) = true by
    decide +kernel)
  have run : Run Notifier.step (LeavesAlone 1) (s₀.disconnect 1) [.network ⟨true, "wifi", "9"⟩]
      ((s₀.disconnect 1).onNetworkChanged ⟨true, "wifi", "9"⟩) := by
    refine Run.single (fun down _ => ?_) rfl
    have stays : (s₀.disconnect 1).network = s₀.network := by
      unfold disconnect
      dsimp only
      split <;> rfl
    rw [stays, online] at down
    cases down
  have stops : Stops 1 (.disconnect 1) := rfl
  exact ⟨s₀, _, _, before, rfl, run, stop_is_final stops rfl run⟩

/-- The user disconnects a lost session. Its record stays in the reconnecting
phase, so `connect` is called for it when the network goes away and returns. -/
theorem stopped_session_is_retried :
    ¬ ∀ (cid : ConnectionId) (history later : List Action) (stop : Action) (s₀ s t : Notifier),
      Run Notifier.step anyStep .build history s₀ → Stops cid stop → s₀.step stop = some s →
      Run Notifier.step (fun _ action => ByItself action) s later t →
      callsFor t cid = callsFor s cid := by
  intro claimed
  let later : List Action := [.network ⟨false, "none", ""⟩, .network ⟨true, "wifi", "9"⟩]
  obtain ⟨s₀, before, wakes⟩ := reaches_of_exec anyStep (fun _ _ _ => trivial) (show
    (exec Notifier.step .build lostHistory).any (fun s₀ =>
      (exec Notifier.step (s₀.disconnect 1) later).any fun t =>
        (callsFor t 1).length != (callsFor (s₀.disconnect 1) 1).length) = true by decide +kernel)
  obtain ⟨t, after, called⟩ := reaches_of_exec (fun _ action => ByItself action)
    (by simp [later, ByItself]) wakes
  have same := claimed 1 lostHistory later (.disconnect 1) s₀ _ t before rfl rfl after
  simp [same] at called

end Nek0.Guarantees
