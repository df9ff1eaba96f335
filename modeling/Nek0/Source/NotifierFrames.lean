import Nek0.Source.NotifierEffects

/-!
# What an engine event leaves alone

Handling an event of one session changes nothing of another session, and keeps
whether its own session reconnects automatically. `Only cid s t` says so. What each step of the
session table does to the fields that other models have too is its `Change`.
-/

namespace Nek0.Source

open Nek0.Library

namespace Notifier

/-- The session a call to the engine is about. -/
def calledFor : NativeCall → ConnectionId
  | .disconnect cid | .cancelConnect cid | .moveToChannel cid _ => cid

/-- Between `s` and `t` only the session `cid` was touched, and its flag kept. -/
structure Only (cid : ConnectionId) (s t : Notifier) : Prop where
  rt : ∀ other, other ≠ cid → t.rt.find other = s.rt.find other
  state : ∀ other, other ≠ cid → t.stateOf other = s.stateOf other
  flag : (t.rt.find cid).map (·.autoReconnect) = (s.rt.find cid).map (·.autoReconnect)
  network : t.network = s.network
  native : ∀ call ∈ t.native, call ∈ s.native ∨ calledFor call = cid

variable {cid : ConnectionId}

theorem Only.refl (s : Notifier) : Only cid s s :=
  ⟨fun _ _ => rfl, fun _ _ => rfl, rfl, rfl, fun _ => .inl⟩

theorem Only.trans {s t u : Notifier} (first : Only cid s t) (second : Only cid t u) :
    Only cid s u :=
  ⟨fun other different => (second.rt other different).trans (first.rt other different),
    fun other different => (second.state other different).trans (first.state other different),
    second.flag.trans first.flag, second.network.trans first.network,
    fun call called => (second.native call called).elim (first.native call) .inr⟩

theorem only_setSession (s : Notifier) (next : TsConnectionState) :
    Only cid s (s.setSession cid next) :=
  ⟨fun _ _ => rfl, fun other different => by simp [stateOf_setSession, different], rfl, rfl,
    fun _ => .inl⟩

theorem only_callNative (s : Notifier) {call : NativeCall} (own : calledFor call = cid) :
    Only cid s (s.callNative call) := by
  refine ⟨fun _ _ => rfl, fun _ _ => rfl, rfl, rfl, fun made called => ?_⟩
  rcases List.mem_append.mp called with earlier | now
  · exact .inl earlier
  · exact .inr (List.mem_singleton.mp now ▸ own)

theorem only_modifyRt (s : Notifier) (change : SessionRuntime → SessionRuntime)
    (flag : ∀ rt, (change rt).autoReconnect = rt.autoReconnect) :
    Only cid s (s.modifyRt cid change) := by
  refine ⟨fun other different => by simp [find_modifyRt, different], fun _ _ => rfl, ?_, rfl,
    fun _ => .inl⟩
  cases found : s.rt.find cid <;> simp [found, flag]

theorem only_cancelTimer (s : Notifier) : Only cid s (s.cancelTimer cid) :=
  only_modifyRt s _ fun _ => rfl

theorem only_disconnect (s : Notifier) : Only cid s (s.disconnect cid) := by
  have start : Only cid s _ := (only_cancelTimer s).trans (only_modifyRt _
    (fun rt => { rt with channelToRestore := none }) fun _ => rfl)
  unfold disconnect
  dsimp only
  split
  · exact start.trans (only_setSession ..)
  · exact ((start.trans (only_setSession ..)).trans (only_callNative _ rfl)).trans
      (only_setSession ..)

theorem only_restoreChannel (s : Notifier) (channels : List TsChannel) :
    Only cid s (s.restoreChannelAfterReconnect cid channels) := by
  unfold restoreChannelAfterReconnect
  split
  · exact .refl s
  · have start : Only cid s _ := only_modifyRt s
      (fun rt => { rt with channelToRestore := none }) fun _ => rfl
    dsimp only
    split
    · exact start
    · split
      · exact start
      · split
        · exact start
        · exact start.trans (only_callNative _ rfl)

theorem only_handleConnected (s : Notifier) (data : ConnectedEvent) :
    Only cid s (s.handleConnected cid data) := by
  unfold handleConnected hydrateServerMessages
  dsimp only
  split
  · exact (((only_setSession ..).trans (only_disconnect _)).trans (only_cancelTimer _)).trans
      (only_restoreChannel ..)
  · exact ((only_setSession ..).trans (only_cancelTimer _)).trans (only_restoreChannel ..)

theorem only_armReconnect (s : Notifier) (chain : ChainId) (request : ConnectRequest)
    (delay now : Nat) : Only cid s (s.armReconnect cid chain request delay now) := by
  have armed : Only cid s _ := (only_setSession s
    { s.stateOf cid with
      phase := .reconnecting
      reconnectAttempt := (s.stateOf cid).reconnectAttempt + 1
      reconnectAt := some (now + delay) }).trans (only_modifyRt _
    (fun rt => { rt with reconnectTimer := some ⟨request, delay⟩ }) fun _ => rfl)
  exact ⟨armed.rt, armed.state, armed.flag, armed.network, armed.native⟩

theorem only_maybeScheduleReconnect (s : Notifier) (kind : String) (retryable : Bool)
    (env : Ambient) : Only cid s (s.maybeScheduleReconnect cid kind retryable env) := by
  unfold maybeScheduleReconnect
  split
  · exact .refl s
  · split
    · exact .refl s
    · split
      · exact .refl s
      · dsimp only
        split
        · exact only_setSession ..
        · split
          · exact only_setSession ..
          · exact only_armReconnect ..

theorem only_handleDisconnected (s : Notifier) (expected : Bool) (env : Ambient) :
    Only cid s (s.handleDisconnected cid expected env) := by
  unfold handleDisconnected
  split
  · exact .refl s
  · split
    · exact .refl s
    · have reset : Only cid s _ := (only_modifyRt s (fun rt =>
        { rt with channelToRestore := some (s.currentChannelName cid), reconnectTimer := none })
        fun _ => rfl).trans (only_setSession _ (.new cid))
      dsimp only
      split
      · exact reset
      · exact (reset.trans (only_setSession ..)).trans (only_maybeScheduleReconnect ..)

theorem only_handleEvent (s : Notifier) (cid : ConnectionId) (event : TsEngineEvent)
    (env : Ambient) : Only cid s (s.handleEvent cid event env) := by
  unfold handleEvent
  split
  · exact .refl s
  · cases event with
    | connected data => exact only_handleConnected ..
    | connectionPhase phase =>
      unfold handleConnectionPhase
      dsimp only
      split
      · exact .refl s
      · exact only_setSession ..
    | connectFailed kind retryable =>
      exact (only_setSession ..).trans (only_maybeScheduleReconnect ..)
    | disconnected expected => exact only_handleDisconnected ..
    | error =>
      unfold handleError
      dsimp only
      split <;> exact only_setSession ..
    | rosterUpdated channels clients => exact only_setSession ..
    | other => exact only_setSession ..

/-- The event may end a session or cancel its timer. -/
def decides : TsEngineEvent → Bool
  | .connected _ => true
  | event => event.isTerminal

/-- Other events leave the runtime bookkeeping alone and call nothing. -/
theorem handleEvent_idle (s : Notifier) (cid : ConnectionId) {event : TsEngineEvent}
    (env : Ambient) (idle : decides event = false) :
    (s.handleEvent cid event env).rt = s.rt ∧ (s.handleEvent cid event env).native = s.native := by
  unfold handleEvent
  split
  · exact ⟨rfl, rfl⟩
  · cases event with
    | connected data => cases idle
    | connectionPhase phase =>
      unfold handleConnectionPhase
      dsimp only
      split <;> exact ⟨rfl, rfl⟩
    | connectFailed kind retryable => cases idle
    | disconnected expected => cases idle
    | error =>
      unfold handleError
      dsimp only
      split <;> exact ⟨rfl, rfl⟩
    | rosterUpdated channels clients => exact ⟨rfl, rfl⟩
    | other => exact ⟨rfl, rfl⟩

section View

/-- The fields of a session that the models of its other fields share with the session table. -/
structure View where
  connected : Bool := false
  connecting : Bool := false
  ownClientId : Nat := 0
  clients : List TsClient := []
  deriving DecidableEq, Repr

def viewOf (st : TsConnectionState) : View :=
  ⟨st.connected, st.connecting, st.ownClientId, st.clients⟩

def view (s : Notifier) (cid : ConnectionId) : View := viewOf (s.stateOf cid)

/-- What a step does to these fields. -/
inductive Change where
  | keep
  | starts
  | connected (data : ConnectedEvent)
  | idle
  | failed
  | gone
  | roster (clients : List TsClient)

def Change.apply (view : View) : Change → View
  | .keep => view
  | .starts => { view with connecting := true }
  | .connected data =>
    { view with
      connected := true
      connecting := false
      ownClientId := data.clientId.getD view.ownClientId
      clients := data.clients }
  | .idle => { view with connecting := false }
  | .failed => { view with connected := false, connecting := false }
  | .gone => {}
  | .roster clients => { view with clients }

def eventChange (s : Notifier) (cid : ConnectionId) : TsEngineEvent → Change
  | .connected data => .connected data
  | .connectFailed .. => .failed
  | .disconnected _ =>
    if (s.view cid).connecting ∨ s.rt.find cid = none then .keep else .gone
  | .error => .idle
  | .rosterUpdated _ clients => .roster clients
  | .connectionPhase _ | .other => .keep

def change (s : Notifier) (cid : ConnectionId) : Action → Change
  | .completeConnect _ reply => if reply = some cid ∧ cid ≠ 0 then .starts else .keep
  | .disconnect other => if other = cid then .idle else .keep
  | .cancelConnect other => if other = cid then .gone else .keep
  | .event other event _ =>
    if other = cid ∧ (cid = 0 ∨ s.rt.find cid ≠ none) then s.eventChange cid event else .keep
  | _ => .keep

/-- The session that a step may do this to. -/
def Action.session : Action → Option ConnectionId
  | .completeConnect _ reply => reply
  | .disconnect cid | .cancelConnect cid | .event cid _ _ => some cid
  | _ => none

variable (s : Notifier)

/-- Which steps change what. -/
theorem change_cases (cid : ConnectionId) (a : Action) :
    s.change cid a = .keep ∨
    (∃ call, a = .completeConnect call (some cid) ∧ s.change cid a = .starts) ∨
    a = .disconnect cid ∧ s.change cid a = .idle ∨
    a = .cancelConnect cid ∧ s.change cid a = .gone ∨
    ∃ event env, a = .event cid event env ∧ (cid = 0 ∨ s.rt.find cid ≠ none) ∧
      s.change cid a = s.eventChange cid event := by
  cases a with
  | completeConnect call reply =>
    by_cases own : reply = some cid ∧ cid ≠ 0
    · exact .inr (.inl ⟨call, by rw [own.1], if_pos own⟩)
    · exact .inl (if_neg own)
  | disconnect session =>
    by_cases own : session = cid
    · exact .inr (.inr (.inl ⟨by rw [own], if_pos own⟩))
    · exact .inl (if_neg own)
  | cancelConnect session =>
    by_cases own : session = cid
    · exact .inr (.inr (.inr (.inl ⟨by rw [own], if_pos own⟩)))
    · exact .inl (if_neg own)
  | event session event env =>
    by_cases own : session = cid ∧ (cid = 0 ∨ s.rt.find cid ≠ none)
    · exact .inr (.inr (.inr (.inr ⟨event, env, by rw [own.1], own.2, if_pos own⟩)))
    · exact .inl (if_neg own)
  | _ => exact .inl rfl

theorem change_of_ne {cid : ConnectionId} {a : Action} (other : a.session ≠ some cid) :
    s.change cid a = .keep := by
  rcases s.change_cases cid a with
    kept | ⟨call, rfl, -⟩ | ⟨rfl, -⟩ | ⟨rfl, -⟩ | ⟨event, env, rfl, -⟩
  · exact kept
  all_goals exact absurd rfl other

/-- An event of a session that is not there is dropped. -/
theorem change_of_absent {cid : ConnectionId} {a : Action} (valid : cid ≠ 0)
    (absent : s.rt.find cid = none) (opens : ∀ call, a ≠ .completeConnect call (some cid)) :
    (s.change cid a).apply {} = {} := by
  rcases s.change_cases cid a with
    kept | ⟨call, own, -⟩ | ⟨-, idle⟩ | ⟨-, gone⟩ | ⟨event, env, -, there, -⟩
  · rw [kept]
    rfl
  · exact absurd own (opens call)
  · rw [idle]
    rfl
  · rw [gone]
    rfl
  · exact absurd absent (there.resolve_left valid)

theorem opens_of_starts {cid : ConnectionId} {a : Action} (starts : s.change cid a = .starts) :
    ∃ call, a = .completeConnect call (some cid) := by
  rcases s.change_cases cid a with
    kept | ⟨call, own, -⟩ | ⟨-, idle⟩ | ⟨-, gone⟩ | ⟨event, env, -, -, handled⟩
  · cases kept.symm.trans starts
  · exact ⟨call, own⟩
  · cases idle.symm.trans starts
  · cases gone.symm.trans starts
  · rw [starts] at handled
    cases event with
    | disconnected expected =>
      rw [eventChange] at handled
      split at handled <;> cases handled
    | _ => cases handled

theorem event_of_connected {cid : ConnectionId} {a : Action} {data : ConnectedEvent}
    (connects : s.change cid a = .connected data) :
    (∃ env, a = .event cid (.connected data) env) ∧ (cid = 0 ∨ s.rt.find cid ≠ none) := by
  rcases s.change_cases cid a with
    kept | ⟨call, -, opened⟩ | ⟨-, idle⟩ | ⟨-, gone⟩ | ⟨event, env, rfl, there, handled⟩
  · cases kept.symm.trans connects
  · cases opened.symm.trans connects
  · cases idle.symm.trans connects
  · cases gone.symm.trans connects
  · rw [connects] at handled
    cases event with
    | connected greeting =>
      cases handled
      exact ⟨⟨env, rfl⟩, there⟩
    | disconnected expected =>
      rw [eventChange] at handled
      split at handled <;> cases handled
    | _ => cases handled

theorem view_setSession (cid queried : ConnectionId) (next : TsConnectionState) :
    (s.setSession cid next).view queried =
      if queried = cid then viewOf next else s.view queried := by
  rw [view, stateOf_setSession]
  split <;> rfl

/-- Writing a record with the same fields keeps every view. -/
theorem view_setSession_same {cid : ConnectionId} {next : TsConnectionState}
    (same : viewOf next = s.view cid) (queried : ConnectionId) :
    (s.setSession cid next).view queried = s.view queried := by
  rw [view_setSession]
  split
  next own => rw [own, same]
  · rfl

theorem view_foldl {step : Notifier → ConnectionId → Notifier}
    (same : ∀ s cid queried, (step s cid).view queried = s.view queried) (cids : List ConnectionId)
    (queried : ConnectionId) : (cids.foldl step s).view queried = s.view queried := by
  induction cids generalizing s with
  | nil => rfl
  | cons cid cids ih => rw [List.foldl_cons, ih, same]

theorem view_disconnect (cid queried : ConnectionId) :
    (s.disconnect cid).view queried =
      if queried = cid then { s.view cid with connecting := false } else s.view queried := by
  unfold disconnect
  dsimp only
  split
  next closed =>
    simp only [stateOf_setSession_self, stateOf_modifyRt, stateOf_cancelTimer, Bool.and_eq_true,
      Bool.not_eq_true'] at closed
    rw [view_setSession]
    split
    · simp [viewOf, view, closed]
    · rfl
  · rw [view_setSession]
    split
    · simp [viewOf, view]
    next other =>
      change ((_ : Notifier).setSession cid _).view queried = _
      rw [view_setSession, if_neg other]
      rfl

theorem view_setAutoReconnect (cid queried : ConnectionId) (enabled : Bool) :
    (s.setAutoReconnect cid enabled).view queried = s.view queried := by
  unfold setAutoReconnect
  split
  · rfl
  · dsimp only
    rw [view_setSession_same]
    · split <;> rfl
    · split <;> rfl

theorem view_loadReconnectPreference (queried : ConnectionId) :
    s.loadReconnectPreference.view queried = s.view queried := by
  refine view_foldl s (fun s cid queried => ?_) _ queried
  dsimp only
  split
  · rfl
  · exact view_setSession_same _ (by rfl) queried

theorem view_retryNow (cid queried : ConnectionId) :
    (s.retryNow cid).view queried = s.view queried := by
  rcases retryNow_cases s cid with same | ⟨rt, request, -, -, same⟩
  · rw [same]
  · rw [same, view, stateOf_repeatConnect, view]

theorem view_timerFired (cid queried : ConnectionId) (rt : SessionRuntime)
    (timer : ReconnectTimer) : (s.timerFired cid rt timer).view queried = s.view queried := by
  rcases timerFired_cases s cid rt timer with same | same
  · rw [same]
    rfl
  · rw [same, view, stateOf_repeatConnect, view]

theorem view_onNetworkChanged (status : NetworkStatus) (queried : ConnectionId) :
    (s.onNetworkChanged status).view queried = s.view queried := by
  have noted : (s.noteNetwork status).view queried = s.view queried := rfl
  unfold onNetworkChanged
  dsimp only
  split
  · refine (view_foldl _ (fun s cid queried => ?_) _ queried).trans noted
    unfold dropForHandover
    split <;> rfl
  · split
    · refine (view_foldl _ (fun s cid queried => ?_) _ queried).trans noted
      unfold stopCountdown
      split
      · exact view_setSession_same _ (by rfl) queried
      · rfl
    · split
      · refine (view_foldl _ (fun s cid queried => ?_) _ queried).trans noted
        unfold retryWaiting
        split
        · exact view_retryNow s cid queried
        · rfl
      · exact noted

theorem view_maybeScheduleReconnect (cid queried : ConnectionId) (kind : String)
    (retryable : Bool) (env : Ambient) :
    (s.maybeScheduleReconnect cid kind retryable env).view queried = s.view queried := by
  unfold maybeScheduleReconnect
  split
  · rfl
  · split
    · rfl
    · split
      · rfl
      · dsimp only
        split
        · exact view_setSession_same _ (by rfl) queried
        · split
          · exact view_setSession_same _ (by rfl) queried
          · exact view_setSession_same _ (by rfl) queried

theorem view_restoreChannel (cid queried : ConnectionId) (channels : List TsChannel) :
    (s.restoreChannelAfterReconnect cid channels).view queried = s.view queried := by
  unfold restoreChannelAfterReconnect
  split
  · rfl
  · dsimp only
    split
    · rfl
    · split
      · rfl
      · split <;> rfl

theorem view_completeConnect (call : ConnectCall) (reply : Option ConnectionId)
    (queried : ConnectionId) : (s.completeConnect call reply).view queried =
      if reply = some queried ∧ queried ≠ 0 then { s.view queried with connecting := true }
      else s.view queried := by
  rcases completeConnect_cases s call reply with
    ⟨none, same⟩ | ⟨cid, rfl, valid, -, -, -, -, -, -, states⟩
  · rw [same, if_neg fun found => found.2 (none queried found.1)]
    rfl
  · rw [view, states]
    by_cases own : queried = cid
    · subst own
      rw [if_pos rfl, if_pos ⟨rfl, valid⟩]
      rfl
    · rw [if_neg own, if_neg fun found => own (Option.some.inj found.1).symm]
      rfl

theorem view_cancelConnect (cid queried : ConnectionId) :
    (s.cancelConnect cid).view queried = if queried = cid then {} else s.view queried := by
  have sessions : (s.cancelConnect cid).sessions = s.sessions.erase cid := rfl
  rw [view, stateOf, sessions]
  split
  next own =>
    rw [own, LinkedMap.find_erase_self]
    rfl
  next other =>
    rw [LinkedMap.find_erase_of_ne _ other]
    rfl

theorem view_handleConnected (cid : ConnectionId) (data : ConnectedEvent) :
    (s.handleConnected cid data).view cid = (Change.connected data).apply (s.view cid) := by
  unfold handleConnected hydrateServerMessages
  dsimp only
  rw [view_restoreChannel]
  change (ite _ _ _ : Notifier).view cid = _
  split
  · rw [view_disconnect, if_pos rfl, view_setSession, if_pos rfl]
    rfl
  · rw [view_setSession, if_pos rfl]
    rfl

theorem view_handleDisconnected (cid : ConnectionId) (expected : Bool) (env : Ambient) :
    (s.handleDisconnected cid expected env).view cid =
      (s.eventChange cid (.disconnected expected)).apply (s.view cid) := by
  unfold handleDisconnected
  split
  next stale =>
    have kept : s.eventChange cid (.disconnected expected) = .keep := if_pos (.inl stale)
    rw [kept]
    rfl
  next settled =>
    split
    next absent =>
      have kept : s.eventChange cid (.disconnected expected) = .keep := if_pos (.inr absent)
      rw [kept]
      rfl
    next rt found =>
      have gone : s.eventChange cid (.disconnected expected) = .gone := by
        refine if_neg fun stays => ?_
        rcases stays with stale | absent
        · exact settled stale
        · simp [absent] at found
      rw [gone]
      dsimp only
      split
      · rw [view_setSession, if_pos rfl]
        rfl
      · rw [view_maybeScheduleReconnect, view_setSession, if_pos rfl, stateOf_setSession_self]
        rfl

/-- What handling an event does to its session. -/
theorem view_handleEvent (cid : ConnectionId) (event : TsEngineEvent) (env : Ambient)
    (there : cid = 0 ∨ s.rt.find cid ≠ none) :
    (s.handleEvent cid event env).view cid = (s.eventChange cid event).apply (s.view cid) := by
  have kept : ¬ (cid ≠ 0 ∧ s.rt.find cid = none) := fun dropped =>
    there.elim dropped.1 fun found => found dropped.2
  unfold handleEvent
  rw [if_neg kept]
  cases event with
  | connected data => exact view_handleConnected s cid data
  | connectionPhase phase =>
    change (s.handleConnectionPhase cid phase).view cid = _
    unfold handleConnectionPhase
    dsimp only
    split
    · rfl
    · exact view_setSession_same _ (by rfl) cid
  | connectFailed kind retryable =>
    change (s.handleConnectFailed cid kind retryable env).view cid = _
    rw [handleConnectFailed, view_maybeScheduleReconnect, view_setSession, if_pos rfl]
    rfl
  | disconnected expected => exact view_handleDisconnected s cid expected env
  | error =>
    change (s.handleError cid).view cid = _
    unfold handleError
    dsimp only
    split
    · rw [view_setSession, if_pos rfl]
      rfl
    next settled =>
      rw [view_setSession, if_pos rfl]
      simp [eventChange, Change.apply, view, viewOf, settled]
  | rosterUpdated channels clients =>
    change (s.setSession cid _).view cid = _
    rw [view_setSession, if_pos rfl]
    rfl
  | other => exact view_setSession_same _ (by rfl) cid

/-- What a step does to a session. -/
theorem view_step {s t : Notifier} {a : Action} (taken : s.step a = some t) (cid : ConnectionId) :
    t.view cid = (s.change cid a).apply (s.view cid) := by
  cases a with
  | connect request =>
    obtain rfl := Option.some.inj taken
    rfl
  | completeConnect call reply =>
    obtain ⟨-, rfl⟩ := step_completeConnect taken
    rw [view_completeConnect, change]
    split <;> rfl
  | disconnect other =>
    obtain rfl := Option.some.inj taken
    rw [view_disconnect, change]
    by_cases own : other = cid
    · rw [if_pos own.symm, if_pos own, own]
      rfl
    · rw [if_neg (Ne.symm own), if_neg own]
      rfl
  | cancelConnect other =>
    obtain rfl := Option.some.inj taken
    rw [view_cancelConnect, change]
    by_cases own : other = cid
    · rw [if_pos own.symm, if_pos own]
      rfl
    · rw [if_neg (Ne.symm own), if_neg own]
      rfl
  | retryNow other =>
    obtain rfl := Option.some.inj taken
    exact view_retryNow s other cid
  | setAutoReconnect other enabled =>
    obtain rfl := Option.some.inj taken
    exact view_setAutoReconnect s other cid enabled
  | loadReconnectPreference =>
    obtain rfl := Option.some.inj taken
    exact view_loadReconnectPreference s cid
  | timer other =>
    obtain ⟨rt, timer, -, -, rfl⟩ := step_timer taken
    exact view_timerFired s other cid rt timer
  | network status =>
    obtain rfl := Option.some.inj taken
    exact view_onNetworkChanged s status cid
  | event other event env =>
    obtain rfl := Option.some.inj taken
    by_cases own : other = cid
    · subst own
      by_cases there : other = 0 ∨ s.rt.find other ≠ none
      · rw [change, if_pos ⟨rfl, there⟩, view_handleEvent s other event env there]
      · have dropped : other ≠ 0 ∧ s.rt.find other = none := by
          rw [not_or, ne_eq, not_not] at there
          exact there
        have same : s.handleEvent other event env = s := if_pos dropped
        rw [change, if_neg fun found => there found.2, same]
        rfl
    · have kept := (only_handleEvent s other event env).state cid (Ne.symm own)
      rw [change, if_neg fun found => own found.1, view, kept]
      rfl

/-- A step leaves other sessions alone. -/
theorem view_of_ne {s t : Notifier} {a : Action} (taken : s.step a = some t) {cid : ConnectionId}
    (other : a.session ≠ some cid) : t.view cid = s.view cid := by
  rw [view_step taken, s.change_of_ne other]
  rfl

end View

/-! ## Connected and connecting sessions -/

/-- No session became connected or connecting. -/
structure Calmer (s t : Notifier) : Prop where
  connected : ∀ cid, (t.stateOf cid).connected = true → (s.stateOf cid).connected = true
  connecting : ∀ cid, (t.stateOf cid).connecting = true → (s.stateOf cid).connecting = true

theorem Calmer.refl (s : Notifier) : Calmer s s := ⟨fun _ => id, fun _ => id⟩

theorem Calmer.trans {s t u : Notifier} (first : Calmer s t) (second : Calmer t u) : Calmer s u :=
  ⟨fun cid later => first.connected cid (second.connected cid later),
    fun cid later => first.connecting cid (second.connecting cid later)⟩

/-- Steps that leave the records alone. -/
theorem calmer_of_same {s t : Notifier} (same : t.sessions = s.sessions) : Calmer s t := by
  constructor <;> intro cid later <;> simpa only [stateOf, same] using later

theorem calmer_of_view {s t : Notifier} (same : ∀ cid, t.view cid = s.view cid) : Calmer s t :=
  ⟨fun cid later => (congrArg View.connected (same cid)).symm.trans later,
    fun cid later => (congrArg View.connecting (same cid)).symm.trans later⟩

/-- The change starts and connects nothing. -/
def Change.calms : Change → Bool
  | .starts | .connected _ => false
  | _ => true

theorem calmer_of_change {s t : Notifier} (changes : ∀ cid, ∃ change : Change,
    change.calms = true ∧ t.view cid = change.apply (s.view cid)) : Calmer s t := by
  have each (cid : ConnectionId) :
      ((t.view cid).connected = true → (s.view cid).connected = true) ∧
        ((t.view cid).connecting = true → (s.view cid).connecting = true) := by
    obtain ⟨change, calms, same⟩ := changes cid
    rw [same]
    cases change with
    | starts | connected => cases calms
    | keep | roster => exact ⟨id, id⟩
    | idle => exact ⟨id, fun starting => (Bool.false_ne_true starting).elim⟩
    | failed | gone =>
      exact ⟨fun on => (Bool.false_ne_true on).elim,
        fun starting => (Bool.false_ne_true starting).elim⟩
  exact ⟨fun cid => (each cid).1, fun cid => (each cid).2⟩

theorem calmer_step {s t : Notifier} {a : Action} (taken : s.step a = some t)
    (calms : ∀ cid, (s.change cid a).calms = true) : Calmer s t :=
  calmer_of_change fun cid => ⟨s.change cid a, calms cid, view_step taken cid⟩

theorem calmer_disconnect (s : Notifier) (cid : ConnectionId) : Calmer s (s.disconnect cid) := by
  have taken : s.step (.disconnect cid) = some (s.disconnect cid) := rfl
  refine calmer_step taken fun queried => ?_
  rw [change]
  split <;> rfl

theorem calmer_cancelConnect (s : Notifier) (cid : ConnectionId) :
    Calmer s (s.cancelConnect cid) := by
  have taken : s.step (.cancelConnect cid) = some (s.cancelConnect cid) := rfl
  refine calmer_step taken fun queried => ?_
  rw [change]
  split <;> rfl

theorem calmer_setAutoReconnect (s : Notifier) (cid : ConnectionId) (enabled : Bool) :
    Calmer s (s.setAutoReconnect cid enabled) :=
  calmer_of_view fun queried => view_setAutoReconnect s cid queried enabled

theorem calmer_loadReconnectPreference (s : Notifier) : Calmer s s.loadReconnectPreference :=
  calmer_of_view (view_loadReconnectPreference s)

theorem calmer_retryNow (s : Notifier) (cid : ConnectionId) : Calmer s (s.retryNow cid) :=
  calmer_of_view (view_retryNow s cid)

theorem calmer_timerFired (s : Notifier) (cid : ConnectionId) (rt : SessionRuntime)
    (timer : ReconnectTimer) : Calmer s (s.timerFired cid rt timer) :=
  calmer_of_view fun queried => view_timerFired s cid queried rt timer

theorem calmer_onNetworkChanged (s : Notifier) (status : NetworkStatus) :
    Calmer s (s.onNetworkChanged status) :=
  calmer_of_view (view_onNetworkChanged s status)

/-- Only a `connected` event connects a session. -/
theorem calmer_handleEvent (s : Notifier) (cid : ConnectionId) {event : TsEngineEvent}
    (env : Ambient) (settled : ∀ data, event ≠ .connected data) :
    Calmer s (s.handleEvent cid event env) := by
  have taken : s.step (.event cid event env) = some (s.handleEvent cid event env) := rfl
  refine calmer_step taken fun queried => ?_
  rw [change]
  split
  · cases event with
    | connected data => exact absurd rfl (settled data)
    | disconnected expected =>
      rw [eventChange]
      split <;> rfl
    | _ => rfl
  · rfl

/-- A session that reports `connected` is not connecting any more. -/
theorem connecting_handleConnected (s : Notifier) (cid : ConnectionId) (data : ConnectedEvent) :
    ((s.handleConnected cid data).stateOf cid).connecting = false :=
  congrArg View.connecting (view_handleConnected s cid data)

section Requests

/-- Every record of the later state was there before, with the same request. -/
def Retains (s t : Notifier) : Prop :=
  ∀ cid after, t.rt.find cid = some after →
    ∃ before, s.rt.find cid = some before ∧ after.lastRequest = before.lastRequest

theorem Retains.refl (s : Notifier) : Retains s s := fun _ rt found => ⟨rt, found, rfl⟩

theorem Retains.trans {s t u : Notifier} (first : Retains s t) (second : Retains t u) :
    Retains s u := by
  intro cid after found
  obtain ⟨middle, foundMiddle, late⟩ := second cid after found
  obtain ⟨before, foundBefore, early⟩ := first cid middle foundMiddle
  exact ⟨before, foundBefore, late.trans early⟩

theorem Retains.present {s t : Notifier} (retains : Retains s t) {cid : ConnectionId}
    (present : (t.rt.find cid).isSome = true) : (s.rt.find cid).isSome = true := by
  obtain ⟨after, found⟩ := Option.isSome_iff_exists.mp present
  obtain ⟨before, foundBefore, _⟩ := retains cid after found
  simp [foundBefore]

theorem retains_of_follows {s t : Notifier}
    (rt : ∀ cid after, t.rt.find cid = some after →
      ∃ before, s.rt.find cid = some before ∧ Follows after before) : Retains s t := by
  intro cid after found
  obtain ⟨before, foundBefore, follows⟩ := rt cid after found
  exact ⟨before, foundBefore, follows.2.1⟩

theorem retains_arms {s t : Notifier} {cid : ConnectionId} {chain : ChainId}
    {timer : ReconnectTimer} (arms : Arms s t cid chain timer) : Retains s t := by
  obtain ⟨before, armed, foundBefore, _, _, _, foundAfter, _, last, _⟩ := arms.armed
  intro other after found
  by_cases same : other = cid
  · subst same
    rw [foundAfter] at found
    cases found
    exact ⟨before, foundBefore, last⟩
  · obtain ⟨earlier, foundEarlier, follows⟩ := arms.others other after same found
    exact ⟨earlier, foundEarlier, follows.2.1⟩

theorem retains_handleEvent (s : Notifier) (cid : ConnectionId) (event : TsEngineEvent)
    (env : Ambient) : Retains s (s.handleEvent cid event env) := by
  rcases s.handleEvent_cases cid event env with quiet | ⟨_, chain, request, arms⟩
  · exact retains_of_follows quiet.rt
  · exact retains_arms arms

theorem retains_retryNow (s : Notifier) (cid : ConnectionId) :
    Retains s (s.retryNow cid) := by
  rcases retryNow_cases s cid with same | ⟨rt, request, -, -, same⟩
  · rw [same]
    exact .refl s
  · rw [same]
    exact retains_of_follows (calls_repeatConnect ..).rt

theorem retains_onNetworkChanged (s : Notifier) (status : NetworkStatus) :
    Retains s (s.onNetworkChanged status) := by
  have noted := retains_of_follows (quiet_noteNetwork s status).rt
  unfold onNetworkChanged
  dsimp only
  split
  · exact noted.trans (retains_of_follows (quiet_foldl quiet_dropForHandover ..).rt)
  · split
    · exact noted.trans (retains_of_follows (quiet_foldl quiet_stopCountdown ..).rt)
    · split
      · refine noted.trans ?_
        generalize s.noteNetwork status = t
        generalize t.rt.keys = cids
        induction cids generalizing t with
        | nil => exact .refl t
        | cons cid cids ih =>
          refine Retains.trans ?_ (ih (retryWaiting t cid))
          unfold retryWaiting
          split
          · exact retains_retryNow t cid
          · exact .refl t
      · exact noted

/-- A session goes on with its request, or a call has just made it with its own. -/
theorem request_step {s t : Notifier} {a : Action} (taken : s.step a = some t)
    {cid : ConnectionId} {after : SessionRuntime} (found : t.rt.find cid = some after) :
    (∃ before, s.rt.find cid = some before ∧ after.lastRequest = before.lastRequest) ∨
      ∃ call, a = .completeConnect call (some cid) ∧ after.lastRequest = some call.request := by
  cases a with
  | completeConnect call reply =>
    obtain ⟨-, rfl⟩ := step_completeConnect taken
    rcases completeConnect_cases s call reply with
      ⟨-, same⟩ | ⟨opened, rfl, -, -, -, -, -, -, rt, -⟩
    · rw [same] at found
      exact .inl ⟨after, found, rfl⟩
    · rw [rt, LinkedMap.find_insert] at found
      split at found
      next own =>
        obtain rfl := Option.some.inj found
        exact .inr ⟨call, by rw [own], rfl⟩
      · exact .inl ⟨after, found, rfl⟩
  | connect request =>
    obtain rfl := Option.some.inj taken
    exact .inl (retains_of_follows (calls_connect s request).rt cid after found)
  | disconnect other =>
    obtain rfl := Option.some.inj taken
    exact .inl (retains_of_follows (quiet_disconnect s other).rt cid after found)
  | cancelConnect other =>
    obtain rfl := Option.some.inj taken
    exact .inl (retains_of_follows (quiet_cancelConnect s other).rt cid after found)
  | retryNow other =>
    obtain rfl := Option.some.inj taken
    exact .inl (retains_retryNow s other cid after found)
  | setAutoReconnect other enabled =>
    obtain rfl := Option.some.inj taken
    exact .inl (retains_of_follows (quiet_setAutoReconnect s other enabled).rt cid after found)
  | loadReconnectPreference =>
    obtain rfl := Option.some.inj taken
    exact .inl (retains_of_follows (quiet_loadReconnectPreference s).rt cid after found)
  | timer other =>
    obtain ⟨rt, timer, -, -, rfl⟩ := step_timer taken
    refine .inl ?_
    rcases timerFired_cases s other rt timer with same | same
    · exact retains_of_follows (quiet_cancelTimer s other).rt cid after (same ▸ found)
    · exact retains_of_follows (calls_repeatConnect ..).rt cid after (same ▸ found)
  | network status =>
    obtain rfl := Option.some.inj taken
    exact .inl (retains_onNetworkChanged s status cid after found)
  | event other event env =>
    obtain rfl := Option.some.inj taken
    exact .inl (retains_handleEvent s other event env cid after found)

end Requests

end Notifier

end Nek0.Source
