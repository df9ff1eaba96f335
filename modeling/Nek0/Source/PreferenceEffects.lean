import Nek0.Source.GlobalPreferences

/-!
# What table steps change of the preferences

The flags of automatic reconnection that a session and its runtime show. Most operations of the
connection table leave all of them alone, and the others change those of one session, except for
the load of the preference.
-/

namespace Nek0.Source

open Library

namespace Notifier

/-- What the record of a session shows, and what its runtime has. -/
def autoFlags (s : Notifier) (cid : ConnectionId) : Bool × Option Bool :=
  ((s.stateOf cid).autoReconnectEnabled, (s.rt.find cid).map (·.autoReconnect))

structure SameFlags (s t : Notifier) : Prop where
  pref : t.autoReconnectPref = s.autoReconnectPref
  flags : ∀ cid, t.autoFlags cid = s.autoFlags cid

variable {s t u : Notifier} {cid : ConnectionId}

theorem SameFlags.refl (s : Notifier) : SameFlags s s := ⟨rfl, fun _ => rfl⟩

theorem SameFlags.trans (first : SameFlags s t) (second : SameFlags t u) : SameFlags s u :=
  ⟨second.pref.trans first.pref, fun cid => (second.flags cid).trans (first.flags cid)⟩

theorem sameFlags_foldl {step : Notifier → ConnectionId → Notifier}
    (each : ∀ s cid, SameFlags s (step s cid)) (cids : List ConnectionId) (s : Notifier) :
    SameFlags s (cids.foldl step s) := by
  induction cids generalizing s with
  | nil => exact .refl s
  | cons cid rest ih => exact (each s cid).trans (ih (step s cid))

theorem autoFlags_setSession (s : Notifier) (cid queried : ConnectionId)
    (next : TsConnectionState) : (s.setSession cid next).autoFlags queried =
      if queried = cid then (next.autoReconnectEnabled, (s.autoFlags queried).2)
      else s.autoFlags queried := by
  simp only [autoFlags, stateOf_setSession, setSession_rt]
  split <;> rfl

theorem autoFlags_modifyRt (s : Notifier) (cid queried : ConnectionId)
    (change : SessionRuntime → SessionRuntime) : (s.modifyRt cid change).autoFlags queried =
      if queried = cid then
        ((s.autoFlags queried).1, ((s.rt.find queried).map change).map (·.autoReconnect))
      else s.autoFlags queried := by
  simp only [autoFlags, stateOf_modifyRt, find_modifyRt]
  split <;> rfl

theorem sameFlags_setSession (s : Notifier) (cid : ConnectionId) {next : TsConnectionState}
    (same : next.autoReconnectEnabled = (s.stateOf cid).autoReconnectEnabled) :
    SameFlags s (s.setSession cid next) := by
  refine ⟨rfl, fun queried => ?_⟩
  rw [autoFlags_setSession]
  split
  · next own => rw [same, own, autoFlags]
  · rfl

theorem sameFlags_modifyRt (s : Notifier) (cid : ConnectionId)
    {change : SessionRuntime → SessionRuntime}
    (same : ∀ rt, (change rt).autoReconnect = rt.autoReconnect) :
    SameFlags s (s.modifyRt cid change) := by
  refine ⟨rfl, fun queried => ?_⟩
  rw [autoFlags_modifyRt]
  split
  · simp [autoFlags, Function.comp_def, same]
  · rfl

section Operations

variable (s) (cid : ConnectionId)

theorem sameFlags_cancelTimer : SameFlags s (s.cancelTimer cid) :=
  sameFlags_modifyRt s cid fun _ => rfl

theorem sameFlags_callNative (call : NativeCall) : SameFlags s (s.callNative call) :=
  ⟨rfl, fun _ => rfl⟩

theorem sameFlags_connect (request : ConnectRequest) (origin : Origin) (chain : Option ChainId) :
    SameFlags s (s.connect request origin chain) := ⟨rfl, fun _ => rfl⟩

theorem sameFlags_disconnect : SameFlags s (s.disconnect cid) := by
  have noted : SameFlags s ((s.cancelTimer cid).modifyRt cid fun rt =>
      { rt with channelToRestore := none }) :=
    (sameFlags_cancelTimer s cid).trans (sameFlags_modifyRt _ cid fun _ => rfl)
  unfold disconnect
  dsimp only
  split
  · exact noted.trans (sameFlags_setSession _ cid (by rfl))
  · refine SameFlags.trans ?_ (sameFlags_setSession _ cid (by rfl))
    exact (noted.trans (sameFlags_setSession _ cid (by rfl))).trans (sameFlags_callNative ..)

theorem sameFlags_repeatConnect (request : ConnectRequest) (origin : Origin) (chain : ChainId) :
    SameFlags s (s.repeatConnect cid request origin chain) :=
  ((sameFlags_cancelTimer s cid).trans (sameFlags_connect ..)).trans
    (sameFlags_setSession _ cid (by rfl))

theorem sameFlags_retryNow : SameFlags s (s.retryNow cid) := by
  rcases s.retryNow_cases cid with same | ⟨rt, request, -, -, called⟩
  · rw [same]
    exact .refl s
  · rw [called]
    exact sameFlags_repeatConnect ..

theorem sameFlags_timerFired (rt : SessionRuntime) (timer : ReconnectTimer) :
    SameFlags s (s.timerFired cid rt timer) := by
  rcases s.timerFired_cases cid rt timer with silent | called
  · rw [silent]
    exact sameFlags_cancelTimer ..
  · rw [called]
    exact sameFlags_repeatConnect ..

theorem sameFlags_restoreChannel (channels : List TsChannel) :
    SameFlags s (s.restoreChannelAfterReconnect cid channels) := by
  unfold restoreChannelAfterReconnect
  split
  · exact .refl s
  have start : SameFlags s (s.modifyRt cid fun rt => { rt with channelToRestore := none }) :=
    sameFlags_modifyRt s cid fun _ => rfl
  dsimp only
  split
  · exact start
  split
  · exact start
  split
  · exact start
  · exact start.trans (sameFlags_callNative ..)

theorem sameFlags_handleConnected (data : ConnectedEvent) :
    SameFlags s (s.handleConnected cid data) := by
  unfold handleConnected hydrateServerMessages
  dsimp only
  split
  · exact (((sameFlags_setSession s cid (by rfl)).trans (sameFlags_disconnect ..)).trans
      (sameFlags_cancelTimer ..)).trans (sameFlags_restoreChannel ..)
  · exact ((sameFlags_setSession s cid (by rfl)).trans (sameFlags_cancelTimer ..)).trans
      (sameFlags_restoreChannel ..)

theorem sameFlags_armReconnect (chain : ChainId) (request : ConnectRequest) (delay now : Nat) :
    SameFlags s (s.armReconnect cid chain request delay now) := by
  have armed : SameFlags s ((s.setSession cid
      { s.stateOf cid with
        phase := .reconnecting
        reconnectAttempt := (s.stateOf cid).reconnectAttempt + 1
        reconnectAt := some (now + delay) }).modifyRt cid fun rt =>
      { rt with reconnectTimer := some ⟨request, delay⟩ }) :=
    (sameFlags_setSession s cid (by rfl)).trans (sameFlags_modifyRt _ cid fun _ => rfl)
  exact ⟨armed.pref, armed.flags⟩

theorem sameFlags_maybeScheduleReconnect (kind : String) (retryable : Bool) (env : Ambient) :
    SameFlags s (s.maybeScheduleReconnect cid kind retryable env) := by
  unfold maybeScheduleReconnect
  split
  · exact .refl s
  split
  · exact .refl s
  split
  · exact .refl s
  dsimp only
  split
  · exact sameFlags_setSession s cid (by rfl)
  split
  · exact sameFlags_setSession s cid (by rfl)
  · exact sameFlags_armReconnect ..

theorem sameFlags_handleConnectFailed (kind : String) (retryable : Bool) (env : Ambient) :
    SameFlags s (s.handleConnectFailed cid kind retryable env) :=
  (sameFlags_setSession s cid (by rfl)).trans (sameFlags_maybeScheduleReconnect ..)

theorem sameFlags_handleError : SameFlags s (s.handleError cid) := by
  unfold handleError
  dsimp only
  split <;> exact sameFlags_setSession s cid (by rfl)

theorem sameFlags_handleConnectionPhase (phase : String) :
    SameFlags s (s.handleConnectionPhase cid phase) := by
  unfold handleConnectionPhase
  dsimp only
  split
  · exact .refl s
  · exact sameFlags_setSession s cid (by rfl)

/-- A stale or unknown loss changes nothing. -/
theorem handleDisconnected_stale (expected : Bool) (env : Ambient)
    (stale : PreferenceApp.resets s cid = false) : s.handleDisconnected cid expected env = s := by
  unfold handleDisconnected
  split
  · rfl
  · next idle =>
    have absent : s.rt.find cid = none := by
      simpa [PreferenceApp.resets, idle] using stale
    rw [absent]

/-- A lost session shows the default, and its runtime keeps its flag. -/
theorem flags_handleDisconnected (expected : Bool) (env : Ambient)
    (resets : PreferenceApp.resets s cid = true) :
    (s.handleDisconnected cid expected env).autoReconnectPref = s.autoReconnectPref ∧
      ∀ queried, (s.handleDisconnected cid expected env).autoFlags queried =
        if queried = cid then (true, (s.autoFlags queried).2) else s.autoFlags queried := by
  obtain ⟨idle, record⟩ : (s.stateOf cid).connecting = false ∧ (s.rt.find cid).isSome = true := by
    simpa [PreferenceApp.resets] using resets
  obtain ⟨rt, found⟩ := Option.isSome_iff_exists.mp record
  let noted := s.modifyRt cid fun rt =>
    { rt with channelToRestore := some (s.currentChannelName cid), reconnectTimer := none }
  have same : SameFlags s noted := sameFlags_modifyRt s cid fun _ => rfl
  have fresh : ∀ queried, (noted.setSession cid (.new cid)).autoFlags queried =
      if queried = cid then (true, (s.autoFlags queried).2) else s.autoFlags queried := by
    intro queried
    rw [autoFlags_setSession, same.flags queried]
    rfl
  have settled : ∀ t, SameFlags (noted.setSession cid (.new cid)) t →
      t.autoReconnectPref = s.autoReconnectPref ∧ ∀ queried, t.autoFlags queried =
        if queried = cid then (true, (s.autoFlags queried).2) else s.autoFlags queried :=
    fun t later => ⟨later.pref.trans same.pref,
      fun queried => (later.flags queried).trans (fresh queried)⟩
  unfold handleDisconnected
  simp only [idle, found, Bool.false_eq_true, if_false]
  split
  · exact settled _ (.refl _)
  · exact settled _ ((sameFlags_setSession _ cid (by rfl)).trans
      (sameFlags_maybeScheduleReconnect ..))

theorem sameFlags_handleEvent (event : TsEngineEvent) (env : Ambient)
    (kept : ∀ expected, event ≠ .disconnected expected) :
    SameFlags s (s.handleEvent cid event env) := by
  unfold handleEvent
  split
  · exact .refl s
  cases event with
  | connected data => exact sameFlags_handleConnected ..
  | connectionPhase phase => exact sameFlags_handleConnectionPhase ..
  | connectFailed kind retryable => exact sameFlags_handleConnectFailed ..
  | disconnected expected => exact absurd rfl (kept expected)
  | error => exact sameFlags_handleError ..
  | rosterUpdated channels clients => exact sameFlags_setSession s cid (by rfl)
  | other => exact sameFlags_setSession s cid (by rfl)

theorem sameFlags_dropForHandover : SameFlags s (s.dropForHandover cid) := by
  unfold dropForHandover
  split
  · have noted : SameFlags s (s.modifyRt cid fun rt =>
        { rt with channelToRestore := some (s.currentChannelName cid) }) :=
      sameFlags_modifyRt s cid fun _ => rfl
    exact noted.trans (sameFlags_callNative ..)
  · exact .refl s

theorem sameFlags_stopCountdown : SameFlags s (s.stopCountdown cid) := by
  unfold stopCountdown
  split
  · exact (sameFlags_cancelTimer s cid).trans (sameFlags_setSession _ cid (by rfl))
  · exact .refl s

theorem sameFlags_retryWaiting : SameFlags s (s.retryWaiting cid) := by
  unfold retryWaiting
  split
  · exact sameFlags_retryNow s cid
  · exact .refl s

theorem sameFlags_onNetworkChanged (status : NetworkStatus) :
    SameFlags s (s.onNetworkChanged status) := by
  have noted : SameFlags s (s.noteNetwork status) := ⟨rfl, fun _ => rfl⟩
  unfold onNetworkChanged
  dsimp only
  split
  · exact noted.trans (sameFlags_foldl sameFlags_dropForHandover _ _)
  split
  · exact noted.trans (sameFlags_foldl sameFlags_stopCountdown _ _)
  split
  · exact noted.trans (sameFlags_foldl sameFlags_retryWaiting _ _)
  · exact noted

theorem sameFlags_closeSession : SameFlags s (s.closeSession cid) := by
  unfold closeSession
  split
  · exact (sameFlags_cancelTimer s cid).trans (sameFlags_disconnect ..)
  · exact .refl s

theorem flags_cancelConnect (queried : ConnectionId) : (s.cancelConnect cid).autoFlags queried =
    if queried = cid then (true, none) else s.autoFlags queried := by
  have record : (s.cancelConnect cid).rt.find queried = (s.rt.erase cid).find queried := rfl
  have session : (s.cancelConnect cid).stateOf queried =
      ((s.sessions.erase cid).find queried).getD (.new queried) := rfl
  rw [autoFlags, record, session]
  split
  · next same =>
    subst same
    simp [TsConnectionState.new]
  · next other =>
    rw [LinkedMap.find_erase_of_ne _ other, LinkedMap.find_erase_of_ne _ other]
    rfl

/-- The setter reaches one session. -/
theorem flags_setAutoReconnect (enabled : Bool) {rt : SessionRuntime}
    (found : s.rt.find cid = some rt) :
    (s.setAutoReconnect cid enabled).autoReconnectPref = some enabled ∧
      ∀ queried, (s.setAutoReconnect cid enabled).autoFlags queried =
        if queried = cid then (enabled, some enabled) else s.autoFlags queried := by
  let flagged : Notifier :=
    { s.modifyRt cid fun rt => { rt with autoReconnect := enabled } with
      autoReconnectPref := some enabled }
  have written : ∀ queried, flagged.autoFlags queried =
      if queried = cid then ((s.autoFlags queried).1, some enabled) else s.autoFlags queried := by
    intro queried
    have same : flagged.autoFlags queried =
        (s.modifyRt cid fun rt => { rt with autoReconnect := enabled }).autoFlags queried := rfl
    rw [same, autoFlags_modifyRt]
    split
    · next own => simp [own, found]
    · rfl
  have shown : ∀ (t : Notifier) (next : TsConnectionState), SameFlags flagged t →
      next.autoReconnectEnabled = enabled →
      (t.setSession cid next).autoReconnectPref = some enabled ∧
        ∀ queried, (t.setSession cid next).autoFlags queried =
          if queried = cid then (enabled, some enabled) else s.autoFlags queried := by
    intro t next same chosen
    refine ⟨same.pref, fun queried => ?_⟩
    rw [autoFlags_setSession, same.flags, written, chosen]
    split <;> rfl
  unfold setAutoReconnect
  rw [found]
  cases enabled with
  | true => exact shown flagged _ (.refl flagged) rfl
  | false => exact shown (flagged.cancelTimer cid) _ (sameFlags_cancelTimer flagged cid) rfl

/-- A call that completes gives its session a runtime with the default. -/
theorem flags_completeConnect (call : ConnectCall) (reply : Option ConnectionId) :
    (s.completeConnect call reply).autoReconnectPref = s.autoReconnectPref ∧
      ∀ queried, (s.completeConnect call reply).autoFlags queried =
        if reply.filter (· ≠ 0) = some queried then ((s.autoFlags queried).1, some true)
        else s.autoFlags queried := by
  unfold completeConnect
  cases reply.filter (· ≠ 0) with
  | none => exact ⟨rfl, fun queried => by rw [if_neg (by simp)]; rfl⟩
  | some cid =>
    refine ⟨rfl, fun queried => ?_⟩
    dsimp only
    by_cases same : queried = cid
    · subst same
      simp [autoFlags, stateOf, setSession]
    · have other : ¬ some cid = some queried := fun equal => same (Option.some.inj equal).symm
      simp [autoFlags, stateOf, setSession, same, other]

end Operations

/-- The load has reached the sessions of a list that have a runtime. -/
structure LoadedFlags (enabled : Bool) (cids : List ConnectionId) (s t : Notifier) : Prop where
  pref : t.autoReconnectPref = s.autoReconnectPref
  record : ∀ queried, (t.rt.find queried).isSome = (s.rt.find queried).isSome
  flags : ∀ queried, t.autoFlags queried =
    if queried ∈ cids ∧ (s.rt.find queried).isSome = true then (enabled, some enabled)
    else s.autoFlags queried

theorem loadedFlags_foldl {enabled : Bool} {step : Notifier → ConnectionId → Notifier}
    (each : ∀ s cid, LoadedFlags enabled [cid] s (step s cid)) (cids : List ConnectionId)
    (s : Notifier) : LoadedFlags enabled cids s (cids.foldl step s) := by
  induction cids generalizing s with
  | nil => exact ⟨rfl, fun _ => rfl, fun queried => by simp⟩
  | cons cid rest ih =>
    have first := each s cid
    have later := ih (step s cid)
    refine ⟨later.pref.trans first.pref,
      fun queried => (later.record queried).trans (first.record queried), fun queried => ?_⟩
    rw [List.foldl_cons, later.flags, first.record, first.flags]
    by_cases present : (s.rt.find queried).isSome = true
    · by_cases listed : queried ∈ rest
      · simp [present, listed]
      · simp [present, listed]
    · simp [present]

theorem loadedFlags_loadReconnectPreference (s : Notifier) :
    LoadedFlags (s.autoReconnectPref.getD true) s.sessions.keys s s.loadReconnectPreference := by
  refine loadedFlags_foldl (fun s cid => ?_) _ s
  split
  · next absent =>
    refine ⟨rfl, fun _ => rfl, fun queried => ?_⟩
    rw [if_neg]
    rintro ⟨listed, present⟩
    simp [List.mem_singleton.mp listed, absent] at present
  · next rt found =>
    dsimp only
    refine ⟨rfl, fun queried => ?_, fun queried => ?_⟩
    · rw [setSession_rt, find_modifyRt]
      split <;> simp
    · rw [autoFlags_setSession, autoFlags_modifyRt]
      by_cases same : queried = cid
      · subst same
        simp [found]
      · simp [same]

end Notifier

end Nek0.Source
