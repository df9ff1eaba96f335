import Nek0.Source.Notifier

/-!
# What the operations of the session table change

The lookups after each primitive update, and the operations that neither call
`connect` nor arm a timer. `Quiet s t` says that between `s` and `t` timers were
only cancelled and sessions only removed; most operations are quiet, so the
results about calls and timers look at the few that are not.
-/

namespace Nek0.Source

open Nek0.Library

namespace Notifier

/-- The armed timer of a session. -/
def timerOf (s : Notifier) (cid : ConnectionId) : Option ReconnectTimer :=
  (s.rt.find cid).bind (·.reconnectTimer)

theorem timerOf_of_find {s : Notifier} {cid : ConnectionId} {rt : SessionRuntime}
    (found : s.rt.find cid = some rt) : s.timerOf cid = rt.reconnectTimer := by
  simp [timerOf, found]

section Primitives

variable (s : Notifier) (cid queried : ConnectionId) (next : TsConnectionState)
  (change : SessionRuntime → SessionRuntime) (call : NativeCall)

@[simp] theorem setSession_rt : (s.setSession cid next).rt = s.rt := rfl
@[simp] theorem setSession_network : (s.setSession cid next).network = s.network := rfl
@[simp] theorem setSession_native : (s.setSession cid next).native = s.native := rfl
@[simp] theorem setSession_inFlight : (s.setSession cid next).inFlight = s.inFlight := rfl
@[simp] theorem setSession_connectCalls :
    (s.setSession cid next).connectCalls = s.connectCalls := rfl
@[simp] theorem setSession_scheduled : (s.setSession cid next).scheduled = s.scheduled := rfl

theorem stateOf_setSession :
    (s.setSession cid next).stateOf queried = if queried = cid then next else s.stateOf queried := by
  simp only [stateOf, setSession, LinkedMap.find_insert]
  split <;> rfl

@[simp] theorem stateOf_setSession_self : (s.setSession cid next).stateOf cid = next := by
  simp [stateOf_setSession]

@[simp] theorem modifyRt_network : (s.modifyRt cid change).network = s.network := rfl
@[simp] theorem modifyRt_native : (s.modifyRt cid change).native = s.native := rfl
@[simp] theorem modifyRt_inFlight : (s.modifyRt cid change).inFlight = s.inFlight := rfl
@[simp] theorem modifyRt_connectCalls :
    (s.modifyRt cid change).connectCalls = s.connectCalls := rfl
@[simp] theorem modifyRt_scheduled : (s.modifyRt cid change).scheduled = s.scheduled := rfl
@[simp] theorem modifyRt_keys : (s.modifyRt cid change).rt.keys = s.rt.keys :=
  LinkedMap.keys_modify ..
@[simp] theorem stateOf_modifyRt : (s.modifyRt cid change).stateOf queried = s.stateOf queried := rfl

theorem find_modifyRt :
    (s.modifyRt cid change).rt.find queried =
      if queried = cid then (s.rt.find queried).map change else s.rt.find queried :=
  LinkedMap.find_modify ..

@[simp] theorem find_modifyRt_self :
    (s.modifyRt cid change).rt.find cid = (s.rt.find cid).map change := by
  simp [find_modifyRt]

@[simp] theorem cancelTimer_network : (s.cancelTimer cid).network = s.network := rfl
@[simp] theorem cancelTimer_native : (s.cancelTimer cid).native = s.native := rfl
@[simp] theorem cancelTimer_inFlight : (s.cancelTimer cid).inFlight = s.inFlight := rfl
@[simp] theorem cancelTimer_connectCalls :
    (s.cancelTimer cid).connectCalls = s.connectCalls := rfl
@[simp] theorem cancelTimer_scheduled : (s.cancelTimer cid).scheduled = s.scheduled := rfl
@[simp] theorem stateOf_cancelTimer : (s.cancelTimer cid).stateOf queried = s.stateOf queried := rfl

theorem find_cancelTimer :
    (s.cancelTimer cid).rt.find queried =
      if queried = cid then (s.rt.find queried).map fun rt => { rt with reconnectTimer := none }
      else s.rt.find queried :=
  find_modifyRt ..

@[simp] theorem callNative_rt : (s.callNative call).rt = s.rt := rfl
@[simp] theorem callNative_network : (s.callNative call).network = s.network := rfl
@[simp] theorem callNative_inFlight : (s.callNative call).inFlight = s.inFlight := rfl
@[simp] theorem callNative_connectCalls :
    (s.callNative call).connectCalls = s.connectCalls := rfl
@[simp] theorem callNative_scheduled : (s.callNative call).scheduled = s.scheduled := rfl
@[simp] theorem stateOf_callNative : (s.callNative call).stateOf queried = s.stateOf queried := rfl
@[simp] theorem callNative_native : (s.callNative call).native = s.native ++ [call] := rfl

end Primitives

section Connect

variable (s : Notifier) (request : ConnectRequest) (origin : Origin) (chain : Option ChainId)

/-- The call that `connect` records. -/
def nextCall : ConnectCall :=
  ⟨s.connectCalls.length, request, origin, chain.getD s.connectCalls.length⟩

@[simp] theorem connect_rt : (s.connect request origin chain).rt = s.rt := rfl
@[simp] theorem connect_network : (s.connect request origin chain).network = s.network := rfl
@[simp] theorem connect_native : (s.connect request origin chain).native = s.native := rfl
@[simp] theorem connect_scheduled : (s.connect request origin chain).scheduled = s.scheduled := rfl
@[simp] theorem connect_inFlight :
    (s.connect request origin chain).inFlight =
      s.inFlight ++ [s.nextCall request origin chain] := rfl
@[simp] theorem connect_connectCalls :
    (s.connect request origin chain).connectCalls =
      s.connectCalls ++ [s.nextCall request origin chain] := rfl
@[simp] theorem stateOf_connect (cid : ConnectionId) :
    (s.connect request origin chain).stateOf cid = s.stateOf cid := rfl

end Connect

/-- A change of a session's bookkeeping that at most cancels its timer. -/
def Follows (after before : SessionRuntime) : Prop :=
  after.chain = before.chain ∧ after.lastRequest = before.lastRequest ∧
    (after.reconnectTimer = before.reconnectTimer ∨ after.reconnectTimer = none)

theorem Follows.refl (rt : SessionRuntime) : Follows rt rt := ⟨rfl, rfl, .inl rfl⟩

theorem Follows.trans {rt₁ rt₂ rt₃ : SessionRuntime} (late : Follows rt₃ rt₂)
    (early : Follows rt₂ rt₁) : Follows rt₃ rt₁ := by
  refine ⟨late.1.trans early.1, late.2.1.trans early.2.1, ?_⟩
  rcases late.2.2 with same | gone
  · rw [same]
    exact early.2.2
  · exact .inr gone

theorem Follows.armed {after before : SessionRuntime} (follows : Follows after before)
    (armed : after.reconnectTimer.isSome = true) : before.reconnectTimer.isSome = true := by
  rcases follows.2.2 with same | gone
  · rw [← same, armed]
  · rw [gone] at armed
    cases armed

/-- No call was made and no timer armed. -/
structure Quiet (s t : Notifier) : Prop where
  rt : ∀ cid after, t.rt.find cid = some after → ∃ before, s.rt.find cid = some before ∧
    Follows after before
  inFlight : t.inFlight = s.inFlight
  connectCalls : t.connectCalls = s.connectCalls
  scheduled : t.scheduled = s.scheduled
  cancels : ∀ cid, .cancelConnect cid ∈ t.native →
    .cancelConnect cid ∈ s.native ∨ t.rt.find cid = none

theorem Quiet.refl (s : Notifier) : Quiet s s :=
  ⟨fun _ rt found => ⟨rt, found, .refl rt⟩, rfl, rfl, rfl, fun _ => .inl⟩

/-- Quiet changes do not bring a removed session back. -/
theorem Quiet.absent {s t : Notifier} (quiet : Quiet s t) {cid : ConnectionId}
    (absent : s.rt.find cid = none) : t.rt.find cid = none := by
  cases found : t.rt.find cid with
  | none => rfl
  | some after =>
    obtain ⟨before, foundBefore, _⟩ := quiet.rt cid after found
    rw [absent] at foundBefore
    cases foundBefore

theorem Quiet.trans {s t u : Notifier} (first : Quiet s t) (second : Quiet t u) : Quiet s u := by
  refine ⟨fun cid after found => ?_, second.inFlight.trans first.inFlight,
    second.connectCalls.trans first.connectCalls, second.scheduled.trans first.scheduled,
    fun cid called => ?_⟩
  · obtain ⟨middle, foundMiddle, late⟩ := second.rt cid after found
    obtain ⟨before, foundBefore, early⟩ := first.rt cid middle foundMiddle
    exact ⟨before, foundBefore, late.trans early⟩
  · rcases second.cancels cid called with earlier | absent
    · exact (first.cancels cid earlier).imp_right second.absent
    · exact .inr absent

/-- A quiet state only loses timers. -/
theorem Quiet.timerOf {s t : Notifier} (quiet : Quiet s t) (cid : ConnectionId) :
    t.timerOf cid = s.timerOf cid ∨ t.timerOf cid = none := by
  cases found : t.rt.find cid with
  | none => exact .inr (by simp [Notifier.timerOf, found])
  | some after =>
    obtain ⟨before, foundBefore, _, _, timer⟩ := quiet.rt cid after found
    simpa [Notifier.timerOf, found, foundBefore] using timer

theorem quiet_foldl {step : Notifier → ConnectionId → Notifier}
    (each : ∀ s cid, Quiet s (step s cid)) (cids : List ConnectionId) (s : Notifier) :
    Quiet s (cids.foldl step s) := by
  induction cids generalizing s with
  | nil => exact .refl s
  | cons cid rest ih => exact (each s cid).trans (ih (step s cid))

theorem quiet_setSession (s : Notifier) (cid : ConnectionId) (next : TsConnectionState) :
    Quiet s (s.setSession cid next) :=
  ⟨fun _ rt found => ⟨rt, found, .refl rt⟩, rfl, rfl, rfl, fun _ => .inl⟩

theorem quiet_callNative (s : Notifier) {call : NativeCall}
    (other : ∀ cid, call ≠ .cancelConnect cid) : Quiet s (s.callNative call) := by
  refine ⟨fun _ rt found => ⟨rt, found, .refl rt⟩, rfl, rfl, rfl, fun cid called => ?_⟩
  rcases List.mem_append.mp called with earlier | now
  · exact .inl earlier
  · exact absurd (List.mem_singleton.mp now).symm (other cid)

theorem quiet_noteNetwork (s : Notifier) (status : NetworkStatus) :
    Quiet s (s.noteNetwork status) :=
  ⟨fun _ rt found => ⟨rt, found, .refl rt⟩, rfl, rfl, rfl, fun _ => .inl⟩

theorem quiet_modifyRt (s : Notifier) (cid : ConnectionId)
    (change : SessionRuntime → SessionRuntime) (follows : ∀ rt, Follows (change rt) rt) :
    Quiet s (s.modifyRt cid change) := by
  refine ⟨fun queried after found => ?_, rfl, rfl, rfl, fun _ => .inl⟩
  rw [find_modifyRt] at found
  split at found
  · obtain ⟨before, foundBefore, rfl⟩ := Option.map_eq_some_iff.mp found
    exact ⟨before, foundBefore, follows before⟩
  · exact ⟨after, found, .refl after⟩

theorem quiet_cancelTimer (s : Notifier) (cid : ConnectionId) : Quiet s (s.cancelTimer cid) :=
  s.quiet_modifyRt cid _ fun _ => ⟨rfl, rfl, .inr rfl⟩

theorem quiet_disconnect (s : Notifier) (cid : ConnectionId) : Quiet s (s.disconnect cid) := by
  unfold disconnect
  dsimp only
  have start := (s.quiet_cancelTimer cid).trans (quiet_modifyRt _ cid
    (fun rt => { rt with channelToRestore := none }) fun _ => ⟨rfl, rfl, .inl rfl⟩)
  split
  · exact start.trans (quiet_setSession ..)
  · exact ((start.trans (quiet_setSession ..)).trans (quiet_callNative _ fun _ => by simp)).trans
      (quiet_setSession ..)

theorem quiet_cancelConnect (s : Notifier) (cid : ConnectionId) : Quiet s (s.cancelConnect cid) := by
  refine ⟨fun queried after found => ?_, rfl, rfl, rfl, fun queried called => ?_⟩
  · by_cases same : queried = cid
    · subst same
      simp [cancelConnect] at found
    · have found : s.rt.find queried = some after := by simpa [cancelConnect, same] using found
      exact ⟨after, found, .refl after⟩
  · rcases List.mem_append.mp called with earlier | now
    · exact .inl earlier
    · cases List.mem_singleton.mp now
      exact .inr (LinkedMap.find_erase_self ..)

theorem quiet_setAutoReconnect (s : Notifier) (cid : ConnectionId) (enabled : Bool) :
    Quiet s (s.setAutoReconnect cid enabled) := by
  unfold setAutoReconnect
  split
  · exact .refl s
  · have flag : Quiet s { s.modifyRt cid (fun rt => { rt with autoReconnect := enabled }) with
        autoReconnectPref := some enabled } :=
      (s.quiet_modifyRt cid (fun rt => { rt with autoReconnect := enabled })
        fun _ => ⟨rfl, rfl, .inl rfl⟩).trans
        ⟨fun _ rt found => ⟨rt, found, .refl rt⟩, rfl, rfl, rfl, fun _ => .inl⟩
    cases enabled with
    | true => exact flag.trans (quiet_setSession ..)
    | false => exact (flag.trans (quiet_cancelTimer ..)).trans (quiet_setSession ..)

theorem quiet_loadReconnectPreference (s : Notifier) : Quiet s s.loadReconnectPreference := by
  unfold loadReconnectPreference
  generalize s.autoReconnectPref.getD true = enabled
  refine quiet_foldl (fun s cid => ?_) _ s
  split
  · exact .refl s
  · exact (s.quiet_modifyRt cid (fun rt => { rt with autoReconnect := enabled })
      fun _ => ⟨rfl, rfl, .inl rfl⟩).trans (quiet_setSession ..)

theorem quiet_restoreChannel (s : Notifier) (cid : ConnectionId) (channels : List TsChannel) :
    Quiet s (s.restoreChannelAfterReconnect cid channels) := by
  unfold restoreChannelAfterReconnect
  split
  · exact .refl s
  · have start := s.quiet_modifyRt cid
      (fun rt => { rt with channelToRestore := none }) fun _ => ⟨rfl, rfl, .inl rfl⟩
    dsimp only
    split
    · exact start
    · split
      · exact start
      · split
        · exact start
        · exact start.trans (quiet_callNative _ fun _ => by simp)

theorem quiet_handleConnected (s : Notifier) (cid : ConnectionId) (data : ConnectedEvent) :
    Quiet s (s.handleConnected cid data) := by
  unfold handleConnected hydrateServerMessages
  dsimp only
  split
  · exact (((quiet_setSession ..).trans (quiet_disconnect ..)).trans (quiet_cancelTimer ..)).trans
      (quiet_restoreChannel ..)
  · exact ((quiet_setSession ..).trans (quiet_cancelTimer ..)).trans (quiet_restoreChannel ..)

theorem quiet_handleError (s : Notifier) (cid : ConnectionId) : Quiet s (s.handleError cid) := by
  unfold handleError
  dsimp only
  split <;> exact quiet_setSession ..

theorem quiet_handleConnectionPhase (s : Notifier) (cid : ConnectionId) (phase : String) :
    Quiet s (s.handleConnectionPhase cid phase) := by
  unfold handleConnectionPhase
  dsimp only
  split
  · exact .refl s
  · exact quiet_setSession ..

theorem quiet_dropForHandover (s : Notifier) (cid : ConnectionId) :
    Quiet s (s.dropForHandover cid) := by
  unfold dropForHandover
  split
  · exact (s.quiet_modifyRt cid (fun rt =>
      { rt with channelToRestore := some (s.currentChannelName cid) })
      fun _ => ⟨rfl, rfl, .inl rfl⟩).trans (quiet_callNative _ fun _ => by simp)
  · exact .refl s

theorem quiet_stopCountdown (s : Notifier) (cid : ConnectionId) : Quiet s (s.stopCountdown cid) := by
  unfold stopCountdown
  split
  · exact (s.quiet_cancelTimer cid).trans (quiet_setSession ..)
  · exact .refl s

/-! ## Calls and armed timers -/

/-- One call was made; timers were only cancelled. -/
structure Calls (s t : Notifier) (call : ConnectCall) : Prop where
  rt : ∀ cid after, t.rt.find cid = some after → ∃ before, s.rt.find cid = some before ∧
    Follows after before
  inFlight : t.inFlight = s.inFlight ++ [call]
  connectCalls : t.connectCalls = s.connectCalls ++ [call]
  scheduled : t.scheduled = s.scheduled
  native : t.native = s.native
  ticket : call.ticket = s.connectCalls.length

/-- A call of the user. -/
theorem calls_connect (s : Notifier) (request : ConnectRequest) :
    Calls s (s.connect request .user none) (s.nextCall request .user none) :=
  ⟨fun _ rt found => ⟨rt, found, .refl rt⟩, rfl, rfl, rfl, rfl, rfl⟩

theorem Calls.timerOf {s t : Notifier} {call : ConnectCall} (calls : Calls s t call)
    (cid : ConnectionId) : t.timerOf cid = s.timerOf cid ∨ t.timerOf cid = none := by
  cases found : t.rt.find cid with
  | none => exact .inr (by simp [Notifier.timerOf, found])
  | some after =>
    obtain ⟨before, foundBefore, _, _, timer⟩ := calls.rt cid after found
    simpa [Notifier.timerOf, found, foundBefore] using timer

theorem timerOf_cancelTimer (s : Notifier) (cid queried : ConnectionId) :
    (s.cancelTimer cid).timerOf queried = if queried = cid then none else s.timerOf queried := by
  simp only [timerOf, find_cancelTimer]
  split
  · cases s.rt.find queried <;> rfl
  · rfl

theorem timerOf_disconnect (s : Notifier) (cid : ConnectionId) :
    (s.disconnect cid).timerOf cid = none := by
  have cancelled : ∀ t : Notifier, t.rt = ((s.cancelTimer cid).modifyRt cid fun rt =>
      { rt with channelToRestore := none }).rt → t.timerOf cid = none := by
    intro t same
    simp only [timerOf, same, find_modifyRt_self, find_cancelTimer, if_true]
    cases s.rt.find cid <;> rfl
  unfold disconnect
  dsimp only
  split <;> exact cancelled _ rfl

theorem timerOf_setAutoReconnect_off (s : Notifier) (cid : ConnectionId) :
    (s.setAutoReconnect cid false).timerOf cid = none := by
  unfold setAutoReconnect
  split
  · next absent => simp [timerOf, absent]
  next rt found => simp [timerOf, found, find_cancelTimer]

/-- A call made on behalf of a session cancels its timer and takes the request,
the origin and the chain from it. -/
def repeatConnect (s : Notifier) (cid : ConnectionId) (request : ConnectRequest) (origin : Origin)
    (chain : ChainId) : Notifier :=
  ((s.cancelTimer cid).connect request origin (some chain)).setSession cid (s.stateOf cid)

theorem calls_repeatConnect (s : Notifier) (cid : ConnectionId) (request : ConnectRequest)
    (origin : Origin) (chain : ChainId) :
    Calls s (s.repeatConnect cid request origin chain) (s.nextCall request origin (some chain)) :=
  ⟨(s.quiet_cancelTimer cid).rt, rfl, rfl, rfl, rfl, rfl⟩

@[simp] theorem timerOf_repeatConnect (s : Notifier) (cid queried : ConnectionId)
    (request : ConnectRequest) (origin : Origin) (chain : ChainId) :
    (s.repeatConnect cid request origin chain).timerOf queried =
      if queried = cid then none else s.timerOf queried :=
  timerOf_cancelTimer ..

@[simp] theorem stateOf_repeatConnect (s : Notifier) (cid queried : ConnectionId)
    (request : ConnectRequest) (origin : Origin) (chain : ChainId) :
    (s.repeatConnect cid request origin chain).stateOf queried = s.stateOf queried := by
  unfold repeatConnect
  rw [stateOf_setSession]
  split
  · next same => rw [same]
  · rfl

theorem find_repeatConnect_of_ne (s : Notifier) {cid queried : ConnectionId}
    (request : ConnectRequest) (origin : Origin) (chain : ChainId) (different : queried ≠ cid) :
    (s.repeatConnect cid request origin chain).rt.find queried = s.rt.find queried := by
  simp [repeatConnect, find_cancelTimer, different]

theorem retryNow_cases (s : Notifier) (cid : ConnectionId) :
    s.retryNow cid = s ∨ ∃ rt request, s.rt.find cid = some rt ∧ rt.lastRequest = some request ∧
      s.retryNow cid = s.repeatConnect cid (retryRequest rt request) (.retry cid) rt.chain := by
  unfold retryNow
  split
  · exact .inl rfl
  next rt found =>
    split
    · exact .inl rfl
    next request last => exact .inr ⟨rt, request, found, last, rfl⟩

theorem timerFired_cases (s : Notifier) (cid : ConnectionId) (rt : SessionRuntime)
    (timer : ReconnectTimer) :
    s.timerFired cid rt timer = s.cancelTimer cid ∨
    s.timerFired cid rt timer =
      s.repeatConnect cid (retryRequest rt timer.request) (.timer cid timer.delay) rt.chain := by
  unfold timerFired
  dsimp only
  split
  · exact .inl rfl
  · exact .inr rfl

theorem timerFired_of_auto (s : Notifier) (cid : ConnectionId) {rt : SessionRuntime}
    (timer : ReconnectTimer) (auto : rt.autoReconnect = true) :
    s.timerFired cid rt timer =
      s.repeatConnect cid (retryRequest rt timer.request) (.timer cid timer.delay) rt.chain := by
  unfold timerFired
  simp only [auto, Bool.not_true, Bool.false_eq_true, if_false]
  rfl

theorem completeConnect_cases (s : Notifier) (call : ConnectCall) (reply : Option ConnectionId) :
    (∀ cid, reply = some cid → cid = 0) ∧
      s.completeConnect call reply = { s with inFlight := s.inFlight.erase call } ∨
    ∃ cid, reply = some cid ∧ cid ≠ 0 ∧
      (s.completeConnect call reply).inFlight = s.inFlight.erase call ∧
      (s.completeConnect call reply).connectCalls = s.connectCalls ∧
      (s.completeConnect call reply).scheduled = s.scheduled ∧
      (s.completeConnect call reply).native = s.native ∧
      (s.completeConnect call reply).network = s.network ∧
      (s.completeConnect call reply).rt = s.rt.insert cid
        { connectionId := cid
          address := call.request.address
          nickname := call.request.nickname
          lastRequest := some call.request
          reconnectTimer := none
          channelToRestore := none
          autoReconnect := true
          chain := call.chain } ∧
      ∀ queried, (s.completeConnect call reply).stateOf queried =
        if queried = cid then
          { s.stateOf cid with connecting := true, phase := .resolving, reconnectAt := none }
        else s.stateOf queried := by
  unfold completeConnect
  dsimp only
  split
  next refused =>
    refine .inl ⟨?_, rfl⟩
    rintro cid rfl
    simpa [Option.filter] using refused
  next cid found =>
    obtain ⟨reply_eq, valid⟩ := Option.filter_eq_some_iff.mp found
    refine .inr ⟨cid, reply_eq, by simpa using valid, rfl, rfl, rfl, rfl, rfl, rfl,
      fun queried => ?_⟩
    exact stateOf_setSession ..

/-- The timer of a session was armed; other timers were only cancelled. -/
structure Arms (s t : Notifier) (cid : ConnectionId) (chain : ChainId) (timer : ReconnectTimer) :
    Prop where
  armed : ∃ before after, s.rt.find cid = some before ∧ before.chain = chain ∧
    before.lastRequest = some timer.request ∧ before.autoReconnect = true ∧
    t.rt.find cid = some after ∧ after.chain = chain ∧ after.lastRequest = before.lastRequest ∧
    after.reconnectTimer = some timer ∧ after.autoReconnect = true
  others : ∀ other after, other ≠ cid → t.rt.find other = some after →
    ∃ before, s.rt.find other = some before ∧ Follows after before
  inFlight : t.inFlight = s.inFlight
  connectCalls : t.connectCalls = s.connectCalls
  scheduled : t.scheduled = s.scheduled ++ [⟨cid, chain, timer.delay⟩]
  native : t.native = s.native
  reconnecting : (t.stateOf cid).phase = .reconnecting

/-- Changes before the timer is armed that leave the flag of its session alone. -/
theorem Arms.after {s m t : Notifier} {cid : ConnectionId} {chain : ChainId}
    {timer : ReconnectTimer} (quiet : Quiet s m)
    (flag : ∀ before after, s.rt.find cid = some before → m.rt.find cid = some after →
      after.autoReconnect = before.autoReconnect)
    (native : m.native = s.native) (arms : Arms m t cid chain timer) :
    Arms s t cid chain timer := by
  obtain ⟨middle, after, found, chained, last, auto, foundAfter, rest⟩ := arms.armed
  obtain ⟨before, foundBefore, sameChain, sameLast, _⟩ := quiet.rt cid middle found
  refine ⟨⟨before, after, foundBefore, by rw [← sameChain, chained], by rw [← sameLast, last],
    by rw [← flag before middle foundBefore found, auto], foundAfter, rest.1,
    by rw [rest.2.1, sameLast], rest.2.2⟩,
    fun other late different foundLate => ?_, arms.inFlight.trans quiet.inFlight,
    arms.connectCalls.trans quiet.connectCalls, by rw [arms.scheduled, quiet.scheduled],
    arms.native.trans native, arms.reconnecting⟩
  obtain ⟨mid, foundMid, lateFollows⟩ := arms.others other late different foundLate
  obtain ⟨early, foundEarly, earlyFollows⟩ := quiet.rt other mid foundMid
  exact ⟨early, foundEarly, lateFollows.trans earlyFollows⟩

theorem arms_armReconnect (s : Notifier) {cid : ConnectionId} {rt : SessionRuntime}
    {request : ConnectRequest} (delay now : Nat) (found : s.rt.find cid = some rt)
    (last : rt.lastRequest = some request) (auto : rt.autoReconnect = true) :
    Arms s (s.armReconnect cid rt.chain request delay now) cid rt.chain ⟨request, delay⟩ := by
  refine ⟨⟨rt, { rt with reconnectTimer := some ⟨request, delay⟩ }, found, rfl, last, auto, ?_, rfl,
    rfl, rfl, auto⟩, fun other after different foundAfter => ?_, rfl, rfl, rfl, rfl, ?_⟩
  · simp [armReconnect, found]
  · have foundAfter : s.rt.find other = some after := by
      simpa [armReconnect, find_modifyRt, different] using foundAfter
    exact ⟨after, foundAfter, .refl after⟩
  · have : ((s.armReconnect cid rt.chain request delay now).stateOf cid) =
        { s.stateOf cid with
          phase := .reconnecting
          reconnectAttempt := (s.stateOf cid).reconnectAttempt + 1
          reconnectAt := some (now + delay) } := stateOf_setSession_self ..
    rw [this]

/-- An automatic reconnect is armed, or nothing but the record changes. -/
theorem maybeScheduleReconnect_cases (s : Notifier) (cid : ConnectionId) (kind : String)
    (retryable : Bool) (env : Ambient) :
    Quiet s (s.maybeScheduleReconnect cid kind retryable env) ∨
    ∃ rt request, s.rt.find cid = some rt ∧ rt.lastRequest = some request ∧
      rt.autoReconnect = true ∧
      ReconnectPolicy.shouldRetry kind retryable (s.stateOf cid).reconnectAttempt = true ∧
      s.network.available = true ∧
      s.maybeScheduleReconnect cid kind retryable env =
        s.armReconnect cid rt.chain request
          (ReconnectPolicy.delayFor (s.stateOf cid).reconnectAttempt env.draw) env.now := by
  unfold maybeScheduleReconnect
  split
  · exact .inl (.refl s)
  next rt found =>
    split
    · exact .inl (.refl s)
    next request last =>
      split
      · exact .inl (.refl s)
      next auto =>
        dsimp only
        split
        · exact .inl (quiet_setSession ..)
        next retry =>
          split
          · exact .inl (quiet_setSession ..)
          next online =>
            exact .inr ⟨rt, request, found, last, by simpa using auto, by simpa using retry,
              by simpa using online, rfl⟩

/-- Whether an engine event makes the session schedule an automatic attempt. -/
def reconnects (s : Notifier) (cid : ConnectionId) (event : TsEngineEvent) : Bool :=
  s.network.available && match s.rt.find cid with
    | none => false
    | some rt =>
      rt.autoReconnect && match event with
        | .connectFailed kind retryable =>
          ReconnectPolicy.shouldRetry kind retryable (s.stateOf cid).reconnectAttempt
        | .disconnected expected => !expected && !(s.stateOf cid).connecting
        | _ => false

/-- The number of the attempt that a failure event schedules. -/
def attemptOf (s : Notifier) (cid : ConnectionId) : TsEngineEvent → Nat
  | .connectFailed _ _ => (s.stateOf cid).reconnectAttempt
  | _ => 0

theorem handleConnectFailed_cases (s : Notifier) (cid : ConnectionId) (kind : String)
    (retryable : Bool) (env : Ambient) :
    Quiet s (s.handleConnectFailed cid kind retryable env) ∨
    s.reconnects cid (.connectFailed kind retryable) = true ∧
      ∃ chain request, Arms s (s.handleConnectFailed cid kind retryable env) cid chain
        ⟨request, ReconnectPolicy.delayFor (s.stateOf cid).reconnectAttempt env.draw⟩ := by
  have start := s.quiet_setSession cid
    { s.stateOf cid with connecting := false, connected := false, phase := .failed }
  rcases maybeScheduleReconnect_cases (s.setSession cid
      { s.stateOf cid with connecting := false, connected := false, phase := .failed })
      cid kind retryable env with
    quiet | ⟨rt, request, found, last, auto, retry, online, armed⟩
  · exact .inl (start.trans quiet)
  · simp only [stateOf_setSession_self] at retry armed
    simp only [setSession_rt, setSession_network] at found online
    refine .inr ⟨by simp [reconnects, found, auto, retry, online], rt.chain, request, ?_⟩
    unfold handleConnectFailed
    dsimp only
    rw [armed]
    refine .after start (fun before after foundBefore foundAfter => ?_) rfl
      (arms_armReconnect _ _ _ (by simpa using found) last auto)
    rw [setSession_rt, foundBefore] at foundAfter
    cases foundAfter
    rfl

theorem handleDisconnected_cases (s : Notifier) (cid : ConnectionId) (expected : Bool)
    (env : Ambient) :
    Quiet s (s.handleDisconnected cid expected env) ∨
    s.reconnects cid (.disconnected expected) = true ∧
      ∃ chain request, Arms s (s.handleDisconnected cid expected env) cid chain
        ⟨request, ReconnectPolicy.delayFor 0 env.draw⟩ := by
  unfold handleDisconnected
  split
  · exact .inl (.refl s)
  next settled =>
    split
    · exact .inl (.refl s)
    next rt found =>
      dsimp only
      have reset : Quiet s ((s.modifyRt cid fun rt =>
          { rt with channelToRestore := some (s.currentChannelName cid), reconnectTimer := none }
          ).setSession cid (.new cid)) :=
        (s.quiet_modifyRt cid (fun rt =>
          { rt with channelToRestore := some (s.currentChannelName cid), reconnectTimer := none })
          fun _ => ⟨rfl, rfl, .inr rfl⟩).trans (quiet_setSession ..)
      split
      · exact .inl reset
      next unexpected =>
        have failed := reset.trans (quiet_setSession _ cid
          { TsConnectionState.new cid with phase := .failed })
        rw [stateOf_setSession_self]
        rcases maybeScheduleReconnect_cases (((s.modifyRt cid fun rt =>
            { rt with
              channelToRestore := some (s.currentChannelName cid), reconnectTimer := none }
            ).setSession cid (.new cid)).setSession cid
            { TsConnectionState.new cid with phase := .failed }) cid "connection_lost" true env with
          quiet | ⟨after, request, foundAfter, last, auto, _, online, armed⟩
        · exact .inl (failed.trans quiet)
        · have sameFlag : after.autoReconnect = rt.autoReconnect := by
            have foundAfter : { rt with
                channelToRestore := some (s.currentChannelName cid)
                reconnectTimer := none } = after := by
              simpa [found] using foundAfter
            rw [← foundAfter]
          have online : s.network.available = true := online
          simp only [stateOf_setSession_self] at armed
          refine .inr ⟨?_, after.chain, request, ?_⟩
          · rw [sameFlag] at auto
            simp only [Bool.not_eq_true] at unexpected settled
            simp [reconnects, found, auto, online, unexpected, settled]
          · rw [armed]
            refine .after failed (fun before late foundBefore foundLate => ?_) rfl
              (arms_armReconnect _ _ _ foundAfter last auto)
            rw [foundAfter] at foundLate
            rw [found] at foundBefore
            cases foundLate
            cases foundBefore
            exact sameFlag

/-- An engine event arms a timer only where it makes its session reconnect. -/
theorem handleEvent_cases (s : Notifier) (cid : ConnectionId) (event : TsEngineEvent)
    (env : Ambient) :
    Quiet s (s.handleEvent cid event env) ∨
    s.reconnects cid event = true ∧
      ∃ chain request, Arms s (s.handleEvent cid event env) cid chain
        ⟨request, ReconnectPolicy.delayFor (s.attemptOf cid event) env.draw⟩ := by
  unfold handleEvent
  split
  · exact .inl (.refl s)
  · cases event with
    | connected data => exact .inl (quiet_handleConnected ..)
    | connectionPhase phase => exact .inl (quiet_handleConnectionPhase ..)
    | connectFailed kind retryable => exact handleConnectFailed_cases ..
    | disconnected expected => exact handleDisconnected_cases ..
    | error => exact .inl (quiet_handleError ..)
    | rosterUpdated channels clients => exact .inl (quiet_setSession ..)
    | other => exact .inl (quiet_setSession ..)

section Steps

variable {s t : Notifier}

theorem step_completeConnect {call : ConnectCall} {reply : Option ConnectionId}
    (taken : s.step (.completeConnect call reply) = some t) :
    call ∈ s.inFlight ∧ t = s.completeConnect call reply := by
  simp only [step, Option.ite_none_right_eq_some, Option.some.injEq] at taken
  exact ⟨taken.1, taken.2.symm⟩

/-- A timer fires where it is armed. -/
theorem step_timer {cid : ConnectionId} (taken : s.step (.timer cid) = some t) :
    ∃ rt timer, s.rt.find cid = some rt ∧ rt.reconnectTimer = some timer ∧
      t = s.timerFired cid rt timer := by
  simp only [step] at taken
  split at taken
  · cases taken
  next rt found =>
    obtain ⟨timer, armed, rfl⟩ := Option.map_eq_some_iff.mp taken
    exact ⟨rt, timer, found, armed, rfl⟩

end Steps

end Notifier

end Nek0.Source
