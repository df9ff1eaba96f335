import Nek0.Guarantees.OrderlySessions

/-!
# A handover and its sessions

When the network is replaced under connected sessions the app tells the engine to
disconnect them, and the engine reports that end as asked for. A session is brought
back only if the disconnect does not reach it and it ends by itself.
-/

namespace Nek0.Guarantees

open Nek0.Source Nek0.Source.Notifier Nek0.Abstract Nek0.Library

/-- A connected session that reconnects automatically. -/
structure Online (s : System) (cid : ConnectionId) : Prop where
  connected : (s.app.stateOf cid).connected = true
  record : ∃ rt, s.app.rt.find cid = some rt ∧ rt.autoReconnect = true

/-- What happens without the user. -/
def Unaided : System.Action → Prop
  | .app (.timer _) _ | .app (.network _) _ | .app (.completeConnect ..) _ => True
  | .app .. => False
  | .accept _ | .deliver _ | .engine _ => True

/-- The engine session has ended and the app has handled every end it reported. -/
def Processed (s : System) (cid : ConnectionId) : Prop := s.engine.weight cid = 0

/-- A call of `connect` on behalf of the session was made since `s`. -/
def RetriedSince (s t : System) (cid : ConnectionId) : Prop :=
  ∃ call ∈ t.app.connectCalls.drop s.app.connectCalls.length, call.origin.session = some cid

/-- A reconnect is scheduled, waits for the network, or was attempted. -/
def Healed (s t : System) (cid : ConnectionId) : Prop :=
  (t.app.timerOf cid).isSome = true ∨ t.app.network.available = false ∧ Waits t.app cid ∨
    RetriedSince s t cid

/-- A disconnect does not reach the session: the connection is neither in its stash
nor with a live event loop, or the session has ended unexpectedly already. -/
def OutOfReach (e : Engine) (cid : ConnectionId) : Prop :=
  (∃ session, e.sessions cid = some session ∧
    (session.stage = .published ∨ session.stage = .taken)) ∨
  (cid, .disconnected false) ∈ e.events

/-- A handover finds the session out of reach, and its event loop does not panic. -/
def EndsByItself (cid : ConnectionId) (s : System) : System.Action → Prop
  | .app (.network status) _ => status.isHandoverFrom s.app.network = true →
    (s.app.stateOf cid).connected = true → OutOfReach s.engine cid
  | .engine (.panics ended) => ended ≠ cid
  | _ => True

/-- The engine session runs and nobody asked it to disconnect. -/
def Runs (e : Engine) (cid : ConnectionId) : Prop :=
  ∃ session, e.sessions cid = some session ∧ (session.stage = .published ∨
    session.stage = .stashed ∨ session.stage = .taken ∨ session.stage = .looping false)

/-- The unexpected end of a session is still to be handled. -/
structure Ending (cid : ConnectionId) (s : System) : Prop where
  record : ∃ rt, s.app.rt.find cid = some rt ∧ rt.autoReconnect = true
  heard : ∃ voice, Continues s.engine cid voice ∧ voice ≠ .greeting
  idle : (s.app.stateOf cid).connecting = false
  ends : Runs s.engine cid ∨ (cid, .disconnected false) ∈ s.engine.events

/-- The end was handled and the session waits for its reconnect. -/
structure Pending (cid : ConnectionId) (s : System) : Prop where
  record : ∃ rt, s.app.rt.find cid = some rt ∧ rt.autoReconnect = true
  heard : Continues s.engine cid .silent
  phase : (s.app.stateOf cid).phase = .reconnecting
  timer : s.app.network.available = true → (s.app.timerOf cid).isSome = true

/-- From the handover on a session is about to end, waits for its reconnect or was
retried. -/
def Healing (cid : ConnectionId) (lost s : System) : Prop :=
  lost.app.connectCalls.length ≤ s.app.connectCalls.length ∧
    (Ending cid s ∨ Pending cid s ∨ RetriedSince lost s cid)

/-! ## The engine session -/

/-- The voice of a session after an end that waits. -/
theorem silent_of_pending {e : Engine} {cid : ConnectionId} {heard : Voice}
    (continues : Continues e cid heard) {event : TsEngineEvent} (ends : event.isTerminal = true)
    (pending : (cid, event) ∈ e.events) :
    ∃ session, e.sessions cid = some session ∧ session.stage = .ended := by
  obtain ⟨session, said, found, listened, behind⟩ := continues
  refine ⟨session, found, ?_⟩
  have silent := Voice.silent_of_mem listened (mem_eventsOf.mpr pending) ends
  subst silent
  cases stage : session.stage <;> first | rfl | simp [stage, stageVoice, Voice.rank] at behind

theorem disconnect_outOfReach {e : Engine} {cid : ConnectionId} {heard : Voice}
    (continues : Continues e cid heard) (far : OutOfReach e cid) : e.disconnect cid = e := by
  unfold Engine.disconnect
  rcases far with ⟨session, found, stage⟩ | pending
  · rw [found]
    rcases stage with stage | stage <;> simp only [stage]
  · obtain ⟨session, found, stage⟩ := silent_of_pending continues rfl pending
    rw [found]
    simp only [stage]

theorem frame_disconnect (e : Engine) {cid closed : ConnectionId} (other : cid ≠ closed) :
    (e.disconnect closed).sessions cid = e.sessions cid ∧
      eventsOf (e.disconnect closed) cid = eventsOf e cid := by
  unfold Engine.disconnect
  split
  · exact ⟨rfl, rfl⟩
  · split
    · exact ⟨Function.update_of_ne other .., rfl⟩
    · exact ⟨Function.update_of_ne other .., rfl⟩
    · exact ⟨rfl, rfl⟩

/-- Calls about other sessions, and disconnects that do not reach this one. -/
theorem frame_execute {e : Engine} {cid : ConnectionId} {heard : Voice} (reported : Bool)
    {calls : List NativeCall} (continues : Continues e cid heard)
    (apart : ∀ call ∈ calls, calledFor call = cid → call = .disconnect cid ∧ OutOfReach e cid) :
    (calls.foldl (Engine.execute reported) e).sessions cid = e.sessions cid ∧
      eventsOf (calls.foldl (Engine.execute reported) e) cid = eventsOf e cid := by
  induction calls generalizing e with
  | nil => exact ⟨rfl, rfl⟩
  | cons call rest ih =>
    rw [List.forall_mem_cons] at apart
    have first : (Engine.execute reported e call).sessions cid = e.sessions cid ∧
        eventsOf (Engine.execute reported e call) cid = eventsOf e cid := by
      by_cases own : calledFor call = cid
      · obtain ⟨rfl, far⟩ := apart.1 own
        change (e.disconnect cid).sessions cid = _ ∧ eventsOf (e.disconnect cid) cid = _
        rw [disconnect_outOfReach continues far]
        exact ⟨rfl, rfl⟩
      · cases call with
        | disconnect closed => exact frame_disconnect e (Ne.symm own)
        | cancelConnect cancelled => exact frame_cancelConnect e reported (Ne.symm own)
        | moveToChannel _ _ => exact ⟨rfl, rfl⟩
    have later := ih (continues.frame first.1 first.2) fun other inside own => by
      obtain ⟨closes, far⟩ := apart.2 other inside own
      refine ⟨closes, far.imp ?_ ?_⟩
      · rintro ⟨session, found, stage⟩
        exact ⟨session, first.1.trans found, stage⟩
      · intro pending
        rw [← mem_eventsOf, first.2]
        exact mem_eventsOf.mpr pending
    exact ⟨later.1.trans first.1, later.2.trans first.2⟩

theorem runs_frame {e later : Engine} {cid : ConnectionId}
    (ends : Runs e cid ∨ (cid, .disconnected false) ∈ e.events)
    (sessions : later.sessions cid = e.sessions cid)
    (events : eventsOf later cid = eventsOf e cid) :
    Runs later cid ∨ (cid, .disconnected false) ∈ later.events := by
  rcases ends with ⟨session, found, stage⟩ | pending
  · exact .inl ⟨session, sessions.trans found, stage⟩
  · refine .inr ?_
    rw [← mem_eventsOf, events]
    exact mem_eventsOf.mpr pending

/-- A session that runs goes on running or ends unexpectedly, unless it panics. -/
theorem runs_step {e later : Engine} {action : EngineAction} {cid : ConnectionId}
    (running : Runs e cid) (taken : e.step action = some later)
    (sound : ∀ ended, action = .panics ended → ended ≠ cid) :
    Runs later cid ∨ (cid, .disconnected false) ∈ later.events := by
  by_cases own : cid = Engine.movedBy action
  · obtain ⟨session, source, stage, said, found, at_source, moves, rfl⟩ := Engine.step_cases taken
    rw [← own] at found ⊢
    obtain ⟨running, foundToo, stages⟩ := running
    rw [found] at foundToo
    cases foundToo
    rw [at_source] at stages
    have moved : (((e.setStage cid session stage).say cid said).sessions cid) =
        some { session with stage := stage } := Function.update_self ..
    cases moves with
    | handshakeDone | publish => simp at stages
    | fail waits => rcases waits with rfl | rfl <;> simp at stages
    | stash | take | startLoop => exact .inl ⟨_, moved, by simp⟩
    | note may => exact .inl ⟨_, moved, stages⟩
    | drop =>
      simp only [reduceCtorEq, Stage.looping.injEq, false_or] at stages
      subst stages
      exact .inr (by simp [Engine.say])
    | panics => exact absurd own.symm (sound _ rfl)
  · obtain ⟨sessions, events⟩ := frame_step taken own
    exact runs_frame (.inl running) sessions events

/-! ## The app -/

theorem mem_drop_of_prefix {older later : List ConnectCall} (grows : older <+: later) {n : Nat}
    {call : ConnectCall} (inside : call ∈ older.drop n) : call ∈ later.drop n := by
  obtain ⟨more, rfl⟩ := grows
  rw [List.drop_append]
  exact List.mem_append_left _ inside

theorem prefix_of_eq {s t : Notifier} (same : t.connectCalls = s.connectCalls) :
    s.connectCalls <+: t.connectCalls :=
  same ▸ List.prefix_rfl

theorem prefix_calls {s t : Notifier} {call : ConnectCall} (calls : Calls s t call) :
    s.connectCalls <+: t.connectCalls :=
  calls.connectCalls ▸ List.prefix_append ..

theorem prefix_retryAll (cids : List ConnectionId) (s : Notifier) :
    s.connectCalls <+: (cids.foldl retryWaiting s).connectCalls := by
  induction cids generalizing s with
  | nil => exact List.prefix_rfl
  | cons cid rest ih =>
    refine List.IsPrefix.trans ?_ (ih (retryWaiting s cid))
    unfold retryWaiting
    split
    · rcases s.retryNow_cases cid with same | ⟨rt, request, _, _, called⟩
      · exact prefix_of_eq (congrArg (·.connectCalls) same)
      · rw [called]
        exact prefix_calls (calls_repeatConnect ..)
    · exact List.prefix_rfl

/-- When the network returns a waiting session is retried. -/
theorem retried_retryAll {cid : ConnectionId} {cids : List ConnectionId} (inside : cid ∈ cids)
    {s : Notifier} {rt : SessionRuntime} (found : s.rt.find cid = some rt)
    (requested : rt.lastRequest.isSome = true) (waits : (s.stateOf cid).phase = .reconnecting) :
    ∃ call ∈ (cids.foldl retryWaiting s).connectCalls.drop s.connectCalls.length,
      call.origin.session = some cid := by
  induction cids generalizing s with
  | nil => cases inside
  | cons first rest ih =>
    rw [List.foldl_cons]
    by_cases own : first = cid
    · subst own
      have retries : retryWaiting s first = s.retryNow first := if_pos waits
      rcases s.retryNow_cases first with same | ⟨after, request, _, _, called⟩
      · obtain ⟨request, last⟩ := Option.isSome_iff_exists.mp requested
        have called : (s.retryNow first).connectCalls ≠ s.connectCalls := by
          simp [Notifier.retryNow, found, last]
        exact absurd (congrArg (·.connectCalls) same) called
      · have later := prefix_retryAll rest (retryWaiting s first)
        rw [retries, called, (calls_repeatConnect ..).connectCalls] at later
        rw [retries, called]
        have made : s.nextCall (retryRequest after request) (.retry first) (some after.chain) ∈
            (s.connectCalls ++ [s.nextCall (retryRequest after request) (.retry first)
              (some after.chain)]).drop s.connectCalls.length := by
          rw [List.drop_left]
          exact List.mem_singleton_self _
        exact ⟨_, mem_drop_of_prefix later made, rfl⟩
    · have different : cid ≠ first := fun same => own same.symm
      have behind : cid ∈ rest := (List.mem_cons.mp inside).resolve_left different
      have grows : s.connectCalls <+: (retryWaiting s first).connectCalls :=
        prefix_retryAll [first] s
      have sameFind : (retryWaiting s first).rt.find cid = s.rt.find cid := by
        unfold retryWaiting
        split
        · exact find_retryNow_of_ne s different
        · rfl
      have sameState : (retryWaiting s first).stateOf cid = s.stateOf cid := by
        unfold retryWaiting
        split
        · rcases s.retryNow_cases first with same | ⟨after, request, _, _, called⟩
          · rw [same]
          · rw [called, stateOf_repeatConnect]
        · rfl
      obtain ⟨call, called, session⟩ := ih behind (sameFind.trans found) (sameState ▸ waits)
      refine ⟨call, ?_, session⟩
      exact (List.drop_subset_drop_left _ grows.length_le) called

/-- When the network returns a session that does not wait is left alone. -/
theorem frame_retryAll {cid : ConnectionId} {s : Notifier}
    (rests : (s.stateOf cid).phase ≠ .reconnecting) (cids : List ConnectionId) :
    (cids.foldl retryWaiting s).rt.find cid = s.rt.find cid ∧
      (cids.foldl retryWaiting s).stateOf cid = s.stateOf cid := by
  induction cids generalizing s with
  | nil => exact ⟨rfl, rfl⟩
  | cons first rest ih =>
    have kept : (retryWaiting s first).rt.find cid = s.rt.find cid ∧
        (retryWaiting s first).stateOf cid = s.stateOf cid := by
      unfold retryWaiting
      split
      next waiting =>
        have different : cid ≠ first := by
          rintro rfl
          exact rests waiting
        refine ⟨find_retryNow_of_ne s different, ?_⟩
        rcases s.retryNow_cases first with same | ⟨after, request, _, _, called⟩
        · rw [same]
        · rw [called, stateOf_repeatConnect]
      next => exact ⟨rfl, rfl⟩
    rw [List.foldl_cons]
    obtain ⟨find, state⟩ := ih (kept.2 ▸ rests)
    exact ⟨find.trans kept.1, state.trans kept.2⟩

/-- The handover calls the engine off the connected sessions and changes no timer. -/
theorem dropAll_spec (cids : List ConnectionId) (s : Notifier) (cid : ConnectionId) :
    (cids.foldl dropForHandover s).stateOf cid = s.stateOf cid ∧
    ((cids.foldl dropForHandover s).rt.find cid).map (·.autoReconnect) =
      (s.rt.find cid).map (·.autoReconnect) ∧
    (cids.foldl dropForHandover s).timerOf cid = s.timerOf cid ∧
    (cids.foldl dropForHandover s).connectCalls = s.connectCalls ∧
    ∀ call ∈ (cids.foldl dropForHandover s).native, calledFor call = cid →
      call ∈ s.native ∨ call = .disconnect cid ∧ (s.stateOf cid).connected = true := by
  induction cids generalizing s with
  | nil => exact ⟨rfl, rfl, rfl, rfl, fun _ called _ => .inl called⟩
  | cons first rest ih =>
    have one : (dropForHandover s first).stateOf cid = s.stateOf cid ∧
        ((dropForHandover s first).rt.find cid).map (·.autoReconnect) =
          (s.rt.find cid).map (·.autoReconnect) ∧
        (dropForHandover s first).timerOf cid = s.timerOf cid ∧
        (dropForHandover s first).connectCalls = s.connectCalls ∧
        ∀ call ∈ (dropForHandover s first).native, calledFor call = cid →
          call ∈ s.native ∨ call = .disconnect cid ∧ (s.stateOf cid).connected = true := by
      unfold dropForHandover
      split
      next drops =>
        simp only [Bool.and_eq_true] at drops
        refine ⟨rfl, ?_, ?_, rfl, fun call called own => ?_⟩
        · simp only [callNative_rt, find_modifyRt]
          split
          · cases s.rt.find cid <;> rfl
          · rfl
        · simp only [timerOf, callNative_rt, find_modifyRt]
          split
          · cases s.rt.find cid <;> rfl
          · rfl
        · refine (List.mem_append.mp called).imp_right fun now => ?_
          cases List.mem_singleton.mp now
          obtain rfl : first = cid := own
          exact ⟨rfl, drops.2⟩
      · exact ⟨rfl, rfl, rfl, rfl, fun _ called _ => .inl called⟩
    rw [List.foldl_cons]
    obtain ⟨state, flag, timer, calls, native⟩ := ih (dropForHandover s first)
    refine ⟨state.trans one.1, flag.trans one.2.1, timer.trans one.2.2.1,
      calls.trans one.2.2.2.1, fun call called own => ?_⟩
    rcases native call called own with earlier | ⟨closes, connected⟩
    · exact one.2.2.2.2 call earlier own
    · exact .inr ⟨closes, one.1 ▸ connected⟩

/-- Losing the network changes no phase. -/
theorem stopAll_spec (cids : List ConnectionId) (s : Notifier) (cid : ConnectionId) :
    ((cids.foldl stopCountdown s).stateOf cid).connecting = (s.stateOf cid).connecting ∧
    ((cids.foldl stopCountdown s).stateOf cid).phase = (s.stateOf cid).phase ∧
    ((cids.foldl stopCountdown s).rt.find cid).map (·.autoReconnect) =
      (s.rt.find cid).map (·.autoReconnect) ∧
    (cids.foldl stopCountdown s).native = s.native ∧
    (cids.foldl stopCountdown s).network = s.network ∧
    (cids.foldl stopCountdown s).connectCalls = s.connectCalls := by
  induction cids generalizing s with
  | nil => exact ⟨rfl, rfl, rfl, rfl, rfl, rfl⟩
  | cons first rest ih =>
    have one : ((stopCountdown s first).stateOf cid).connecting = (s.stateOf cid).connecting ∧
        ((stopCountdown s first).stateOf cid).phase = (s.stateOf cid).phase ∧
        ((stopCountdown s first).rt.find cid).map (·.autoReconnect) =
          (s.rt.find cid).map (·.autoReconnect) ∧
        (stopCountdown s first).native = s.native ∧ (stopCountdown s first).network = s.network ∧
        (stopCountdown s first).connectCalls = s.connectCalls := by
      unfold stopCountdown
      split
      · refine ⟨?_, ?_, ?_, rfl, rfl, rfl⟩
        · simp only [stateOf_setSession, stateOf_cancelTimer]
          split
          next own => rw [own]
          next => rfl
        · simp only [stateOf_setSession, stateOf_cancelTimer]
          split
          next own => rw [own]
          next => rfl
        · simp only [setSession_rt, find_cancelTimer]
          split
          · cases s.rt.find cid <;> rfl
          · rfl
      · exact ⟨rfl, rfl, rfl, rfl, rfl, rfl⟩
    rw [List.foldl_cons]
    obtain ⟨connecting, phase, flag, native, network, calls⟩ := ih (stopCountdown s first)
    exact ⟨connecting.trans one.1, phase.trans one.2.1, flag.trans one.2.2.1,
      native.trans one.2.2.2.1, network.trans one.2.2.2.2.1, calls.trans one.2.2.2.2.2⟩

/-- A session that is to be retried waits for it, with a timer while there is a
network. -/
theorem maybeScheduleReconnect_retries {s : Notifier} {cid : ConnectionId} (rt : SessionRuntime)
    {kind : String} {retryable : Bool} (env : Ambient) (found : s.rt.find cid = some rt)
    (requested : rt.lastRequest.isSome = true) (auto : rt.autoReconnect = true)
    (retries : ReconnectPolicy.shouldRetry kind retryable (s.stateOf cid).reconnectAttempt = true) :
    ((s.maybeScheduleReconnect cid kind retryable env).stateOf cid).phase = .reconnecting ∧
    (s.network.available = true →
      ((s.maybeScheduleReconnect cid kind retryable env).timerOf cid).isSome = true) := by
  obtain ⟨request, last⟩ := Option.isSome_iff_exists.mp requested
  cases online : s.network.available with
  | true =>
    have arms := s.arms_armReconnect
      (ReconnectPolicy.delayFor (s.stateOf cid).reconnectAttempt env.draw) env.now found last auto
    have scheduled : s.maybeScheduleReconnect cid kind retryable env = s.armReconnect cid rt.chain
        request (ReconnectPolicy.delayFor (s.stateOf cid).reconnectAttempt env.draw) env.now := by
      simp [maybeScheduleReconnect, found, last, auto, retries, online]
    rw [scheduled]
    obtain ⟨_, after, _, _, _, _, foundAfter, _, _, armed, _⟩ := arms.armed
    exact ⟨arms.reconnecting, fun _ => by simp [timerOf_of_find foundAfter, armed]⟩
  | false =>
    constructor
    · simp [maybeScheduleReconnect, found, last, auto, retries, online]
    · exact nofun

/-- An unexpected end is answered with a reconnect, or waits for the network. -/
theorem handleDisconnected_lost {s : Notifier} {cid : ConnectionId} {rt : SessionRuntime}
    (env : Ambient) (found : s.rt.find cid = some rt) (requested : rt.lastRequest.isSome = true)
    (auto : rt.autoReconnect = true) (idle : (s.stateOf cid).connecting = false) :
    ((s.handleDisconnected cid false env).stateOf cid).phase = .reconnecting ∧
    (s.network.available = true →
      ((s.handleDisconnected cid false env).timerOf cid).isSome = true) := by
  unfold handleDisconnected
  simp only [idle, found, Bool.false_eq_true, if_false]
  refine maybeScheduleReconnect_retries { rt with
    channelToRestore := some (s.currentChannelName cid), reconnectTimer := none } env ?_ requested
    auto ?_
  · simp [found]
  · rw [stateOf_setSession_self, stateOf_setSession_self]
    rfl

/-! ## One step -/

theorem RetriedSince.mono {lost s t : System} {cid : ConnectionId}
    (retried : RetriedSince lost s cid) (grows : s.app.connectCalls <+: t.app.connectCalls) :
    RetriedSince lost t cid := by
  obtain ⟨call, called, session⟩ := retried
  exact ⟨call, mem_drop_of_prefix grows called, session⟩

theorem prefix_network (s : Notifier) (status : NetworkStatus) :
    s.connectCalls <+: (s.onNetworkChanged status).connectCalls := by
  unfold onNetworkChanged
  dsimp only
  split
  · exact prefix_of_eq (quiet_foldl quiet_dropForHandover _ _).connectCalls
  · split
    · exact prefix_of_eq (quiet_foldl quiet_stopCountdown _ _).connectCalls
    · split
      · exact prefix_retryAll _ (s.noteNetwork status)
      · exact List.prefix_rfl

/-- Calls of `connect` are never forgotten. -/
theorem prefix_step {s t : System} {action : System.Action} (unaided : Unaided action)
    (taken : s.step action = some t) : s.app.connectCalls <+: t.app.connectCalls := by
  cases action with
  | app action reported =>
    obtain ⟨app, moved, rfl⟩ : ∃ app, s.app.step action = some app ∧
        System.settle app s.engine reported = t := by
      cases action with
      | event => cases taken
      | completeConnect call reply =>
        cases reply with
        | some => cases taken
        | none => exact Option.map_eq_some_iff.mp taken
      | _ => exact Option.map_eq_some_iff.mp taken
    change s.app.connectCalls <+: app.connectCalls
    cases action with
    | completeConnect call reply =>
      obtain ⟨-, rfl⟩ := Notifier.step_completeConnect moved
      rcases s.app.completeConnect_cases call reply with ⟨_, same⟩ | ⟨_, _, _, _, same, _⟩
      · exact prefix_of_eq (congrArg (·.connectCalls) same)
      · exact prefix_of_eq same
    | timer cid =>
      obtain ⟨rt, timer, found, armed, rfl⟩ := Notifier.step_timer moved
      rcases s.app.timerFired_cases cid rt timer with silent | called
      · exact prefix_of_eq (congrArg (·.connectCalls) silent)
      · rw [called]
        exact prefix_calls (calls_repeatConnect ..)
    | network status =>
      cases moved
      exact prefix_network ..
    | _ => exact unaided.elim
  | accept call =>
    simp only [System.step, Option.ite_none_right_eq_some, Option.some.injEq] at taken
    obtain ⟨_, rfl⟩ := taken
    rcases s.app.completeConnect_cases call (some s.engine.nextConnectionId) with
      ⟨_, same⟩ | ⟨_, _, _, _, same, _⟩
    · exact prefix_of_eq (congrArg (·.connectCalls) same)
    · exact prefix_of_eq same
  | deliver env =>
    obtain ⟨cid, event, rest, queue, rfl⟩ := System.step_deliver taken
    rcases s.app.handleEvent_cases cid event env with quiet | ⟨_, _, _, arms⟩
    · exact prefix_of_eq quiet.connectCalls
    · exact prefix_of_eq arms.connectCalls
  | engine action =>
    obtain ⟨engine, _, rfl⟩ := Option.map_eq_some_iff.mp taken
    exact List.prefix_rfl

theorem record_of_flag {s t : Notifier} {cid : ConnectionId}
    (flag : (t.rt.find cid).map (·.autoReconnect) = (s.rt.find cid).map (·.autoReconnect))
    (record : ∃ rt, s.rt.find cid = some rt ∧ rt.autoReconnect = true) :
    ∃ rt, t.rt.find cid = some rt ∧ rt.autoReconnect = true := by
  obtain ⟨rt, found, auto⟩ := record
  rw [found, Option.map_some, auto] at flag
  exact Option.map_eq_some_iff.mp flag

/-- Steps that touch neither the flag nor the engine session. -/
theorem Ending.keep {s t : System} {cid : ConnectionId} (ending : Ending cid s)
    (flag : (t.app.rt.find cid).map (·.autoReconnect) = (s.app.rt.find cid).map (·.autoReconnect))
    (connecting : (t.app.stateOf cid).connecting = (s.app.stateOf cid).connecting)
    (engine : t.engine.sessions cid = s.engine.sessions cid ∧
      eventsOf t.engine cid = eventsOf s.engine cid) : Ending cid t := by
  obtain ⟨voice, continues, greeted⟩ := ending.heard
  exact ⟨record_of_flag flag ending.record, ⟨voice, continues.frame engine.1 engine.2, greeted⟩,
    connecting.trans ending.idle, runs_frame ending.ends engine.1 engine.2⟩

theorem Pending.keep {s t : System} {cid : ConnectionId} (pending : Pending cid s)
    (flag : (t.app.rt.find cid).map (·.autoReconnect) = (s.app.rt.find cid).map (·.autoReconnect))
    (phase : (t.app.stateOf cid).phase = (s.app.stateOf cid).phase)
    (timer : t.app.network.available = true →
      s.app.network.available = true ∧ t.app.timerOf cid = s.app.timerOf cid)
    (heard : Continues t.engine cid .silent) : Pending cid t := by
  refine ⟨record_of_flag flag pending.record, heard, phase.trans pending.phase, fun online => ?_⟩
  obtain ⟨before, same⟩ := timer online
  rw [same]
  exact pending.timer before

/-- Steps that touch nothing of the session. -/
theorem frame_pending {s t : System} {cid : ConnectionId}
    (waits : Ending cid s ∨ Pending cid s)
    (rt : t.app.rt.find cid = s.app.rt.find cid) (state : t.app.stateOf cid = s.app.stateOf cid)
    (network : t.app.network = s.app.network)
    (engine : t.engine.sessions cid = s.engine.sessions cid ∧
      eventsOf t.engine cid = eventsOf s.engine cid) : Ending cid t ∨ Pending cid t := by
  refine waits.imp (fun ending => ?_) fun pending => ?_
  · exact ending.keep (by rw [rt]) (by rw [state]) engine
  · refine pending.keep (by rw [rt]) (by rw [state]) (fun online => ⟨network ▸ online, ?_⟩)
      (pending.heard.frame engine.1 engine.2)
    simp only [timerOf, rt]

/-- A call on behalf of the session. -/
theorem retried_repeatConnect {lost s : System} {cid : ConnectionId}
    (older : lost.app.connectCalls.length ≤ s.app.connectCalls.length) (request : ConnectRequest)
    {origin : Origin} (chain : ChainId) (engine : Engine) (session : origin.session = some cid) :
    RetriedSince lost ⟨s.app.repeatConnect cid request origin chain, engine⟩ cid := by
  refine ⟨s.app.nextCall request origin (some chain), ?_, session⟩
  have calls := (calls_repeatConnect s.app cid request origin chain).connectCalls
  rw [calls, List.drop_append_of_le_length older]
  exact List.mem_append_right _ (List.mem_singleton_self _)

theorem healing_timer {lost s : System} {cid fired : ConnectionId} {rt : SessionRuntime}
    {timer : ReconnectTimer} (tidy : Tidy s)
    (older : lost.app.connectCalls.length ≤ s.app.connectCalls.length)
    (waits : Ending cid s ∨ Pending cid s) (found : s.app.rt.find fired = some rt)
    (reported : Bool) :
    let t := System.settle (s.app.timerFired fired rt timer) s.engine reported
    (Ending cid t ∨ Pending cid t) ∨ RetriedSince lost t cid := by
  intro t
  by_cases own : fired = cid
  · subst own
    have auto : rt.autoReconnect = true := by
      obtain ⟨before, foundBefore, auto⟩ := waits.elim (·.record) (·.record)
      rw [found] at foundBefore
      cases foundBefore
      exact auto
    have called := timerFired_of_auto s.app fired timer auto
    have calls := calls_repeatConnect s.app fired (retryRequest rt timer.request)
      (.timer fired timer.delay) rt.chain
    have settled : t = ⟨s.app.repeatConnect fired (retryRequest rt timer.request)
        (.timer fired timer.delay) rt.chain, s.engine⟩ := by
      rw [← settle_of_idle (calls.native.trans tidy.consistent.idle) reported, ← called]
    rw [settled]
    exact .inr (retried_repeatConnect older _ _ _ rfl)
  · have different : cid ≠ fired := fun same => own same.symm
    rcases s.app.timerFired_cases fired rt timer with silent | called
    · have settled : t = ⟨s.app.cancelTimer fired, s.engine⟩ := by
        have idle : (s.app.cancelTimer fired).native = [] := tidy.consistent.idle
        rw [← settle_of_idle idle reported, ← silent]
      rw [settled]
      exact .inl (frame_pending waits (by simp [find_cancelTimer, different]) rfl rfl ⟨rfl, rfl⟩)
    · have calls := calls_repeatConnect s.app fired (retryRequest rt timer.request)
        (.timer fired timer.delay) rt.chain
      have settled : t = ⟨s.app.repeatConnect fired (retryRequest rt timer.request)
          (.timer fired timer.delay) rt.chain, s.engine⟩ := by
        rw [← settle_of_idle (calls.native.trans tidy.consistent.idle) reported, ← called]
      rw [settled]
      exact .inl (frame_pending waits (find_repeatConnect_of_ne _ _ _ _ different)
        (stateOf_repeatConnect ..) rfl ⟨rfl, rfl⟩)

theorem healing_handover {s : System} {cid : ConnectionId} {status : NetworkStatus}
    {reported : Bool} (tidy : Tidy s) (waits : Ending cid s ∨ Pending cid s)
    (handover : status.isHandoverFrom s.app.network = true)
    (far : (s.app.stateOf cid).connected = true → OutOfReach s.engine cid) :
    let app := s.app.order.foldl dropForHandover (s.app.noteNetwork status)
    Ending cid (System.settle app s.engine reported) ∨
      Pending cid (System.settle app s.engine reported) := by
  intro app
  obtain ⟨state, flag, timer, _, native⟩ :=
    dropAll_spec s.app.order (s.app.noteNetwork status) cid
  have called : ∀ call ∈ app.native, calledFor call = cid →
      call = .disconnect cid ∧ OutOfReach s.engine cid := by
    intro call inside own
    rcases native call inside own with earlier | ⟨closes, connected⟩
    · have idle : (s.app.noteNetwork status).native = [] := tidy.consistent.idle
      rw [idle] at earlier
      cases earlier
    · exact ⟨closes, far connected⟩
  refine waits.imp (fun ending => ?_) fun pending => ?_
  · obtain ⟨voice, continues, _⟩ := ending.heard
    exact ending.keep flag (congrArg (·.connecting) state) (frame_execute reported continues called)
  · refine pending.keep flag (congrArg (·.phase) state) (fun _ => ⟨?_, timer⟩)
      (continues_execute (fun cancels => ?_) pending.heard)
    · simp only [NetworkStatus.isHandoverFrom, Bool.and_eq_true] at handover
      exact handover.1.1.1.2
    · cases (called _ cancels rfl).1

theorem healing_network {lost s : System} {cid : ConnectionId} {status : NetworkStatus}
    {reported : Bool} (tidy : Tidy s)
    (older : lost.app.connectCalls.length ≤ s.app.connectCalls.length)
    (waits : Ending cid s ∨ Pending cid s)
    (alone : EndsByItself cid s (.app (.network status) reported)) :
    let t := System.settle (s.app.onNetworkChanged status) s.engine reported
    (Ending cid t ∨ Pending cid t) ∨ RetriedSince lost t cid := by
  intro t
  have idle : (s.app.noteNetwork status).native = [] := tidy.consistent.idle
  obtain ⟨rt, found, _⟩ := waits.elim (·.record) (·.record)
  simp only [t]
  unfold onNetworkChanged
  dsimp only
  split
  next handover =>
    simp only [Bool.and_eq_true] at handover
    exact .inl (healing_handover tidy waits handover.1 (alone handover.1))
  · split
    next down =>
      obtain ⟨connecting, phase, flag, native, network, _⟩ :=
        stopAll_spec s.app.rt.keys (s.app.noteNetwork status) cid
      have keys : (s.app.noteNetwork status).rt.keys = s.app.rt.keys := rfl
      rw [keys, settle_of_idle (native.trans idle)]
      refine .inl (waits.imp (fun ending => ending.keep flag connecting ⟨rfl, rfl⟩) fun pending =>
        pending.keep flag phase (fun online => ?_) pending.heard)
      have online :
          ((s.app.rt.keys.foldl stopCountdown (s.app.noteNetwork status)).network).available =
            true := online
      rw [network] at online
      have unavailable : status.available = false := by simpa using down
      exact absurd online (by simp [noteNetwork, unavailable])
    next up =>
      have keys : (s.app.noteNetwork status).rt.keys = s.app.rt.keys := rfl
      split
      next returns =>
        have native := (follows_retryAll s.app.rt.keys (s.app.noteNetwork status)).2
        rw [keys, settle_of_idle (native.trans idle)]
        by_cases waiting : (s.app.stateOf cid).phase = .reconnecting
        · have inside : cid ∈ s.app.rt.keys := (s.app.rt.mem_keys cid).mpr (by simp [found])
          have retried : ∃ call ∈ (s.app.rt.keys.foldl retryWaiting
              (s.app.noteNetwork status)).connectCalls.drop s.app.connectCalls.length,
              call.origin.session = some cid :=
            retried_retryAll (s := s.app.noteNetwork status) inside found
              (tidy.requests cid rt found) waiting
          obtain ⟨call, called, session⟩ := retried
          exact .inr ⟨call, List.drop_subset_drop_left _ older called, session⟩
        · obtain ⟨sameRt, sameState⟩ := frame_retryAll (s := s.app.noteNetwork status) waiting
            s.app.rt.keys
          refine .inl (.inl ?_)
          rcases waits with ending | pending
          · exact ending.keep (by rw [sameRt]; rfl) (by rw [sameState]; rfl) ⟨rfl, rfl⟩
          · exact absurd pending.phase waiting
      next stays =>
        rw [settle_of_idle idle]
        refine .inl (waits.imp (fun ending => ending.keep rfl rfl ⟨rfl, rfl⟩) fun pending =>
          pending.keep rfl rfl (fun _ => ⟨?_, rfl⟩) pending.heard)
        simpa using stays

theorem healing_accept {s : System} {cid : ConnectionId} {call : ConnectCall} (tidy : Tidy s)
    (waits : Ending cid s ∨ Pending cid s) :
    let t := System.settle (s.app.completeConnect call (some s.engine.nextConnectionId))
      (s.engine.openSession call.chain) false
    Ending cid t ∨ Pending cid t := by
  intro t
  obtain ⟨rt, found, _⟩ := waits.elim (·.record) (·.record)
  have known := (tidy.consistent.known cid _ (tidy.consistent.chains cid rt found)).1
  simp only [t]
  rcases s.app.completeConnect_cases call (some s.engine.nextConnectionId) with
    ⟨refused, _⟩ | ⟨new, accepted, _, _, _, _, native, network, inserted, states⟩
  · exact absurd (refused _ rfl) tidy.consistent.positive.ne'
  · obtain rfl : s.engine.nextConnectionId = new := by simpa using accepted
    generalize s.app.completeConnect call (some s.engine.nextConnectionId) = app at *
    rw [settle_of_idle (native.trans tidy.consistent.idle)]
    refine frame_pending waits ?_ ?_ network ⟨?_, rfl⟩
    · change app.rt.find cid = _
      rw [inserted, LinkedMap.find_insert_of_ne _ _ known.ne]
    · change app.stateOf cid = _
      rw [states, if_neg known.ne]
    · exact Function.update_of_ne known.ne ..

/-- The unexpected end is the one that is handled. -/
theorem healing_end {s : System} {cid : ConnectionId} {event : TsEngineEvent}
    {rest : List (ConnectionId × TsEngineEvent)} {env : Ambient} (tidy : Tidy s)
    (ending : Ending cid s) (queue : s.engine.events = (cid, event) :: rest)
    (ends : event.isTerminal = true) :
    Pending cid (System.settle (s.app.handleEvent cid event env) (s.engine.leave rest) false) := by
  obtain ⟨voice, continues, _⟩ := ending.heard
  obtain ⟨rt, found, auto⟩ := ending.record
  obtain ⟨next, spoken, later⟩ := continues.pop queue
  obtain ⟨_, rfl⟩ := Voice.silent_of_terminal ends spoken
  have lost : event = .disconnected false := by
    rcases ending.ends with ⟨session, foundSession, stage⟩ | pending
    · obtain ⟨ended, foundEnded, finished⟩ := silent_of_pending continues ends (by simp [queue])
      rw [foundSession] at foundEnded
      cases foundEnded
      rw [finished] at stage
      simp at stage
    · obtain ⟨session, said, _, listened, _⟩ := continues
      rw [eventsOf_pop queue, if_pos rfl] at listened
      refine Voice.terminal_unique listened ends ?_ rfl
      have waits := mem_eventsOf.mpr pending
      rwa [eventsOf_pop queue, if_pos rfl] at waits
  subst lost
  have handled : s.app.handleEvent cid (.disconnected false) env =
      s.app.handleDisconnected cid false env := by
    unfold handleEvent
    rw [if_neg]
    rintro ⟨_, absent⟩
    simp [absent] at found
  have only := only_handleEvent s.app cid (.disconnected false) env
  obtain ⟨phase, timer⟩ := handleDisconnected_lost env found (tidy.requests cid rt found) auto
    ending.idle
  have present : ((s.app.handleEvent cid (.disconnected false) env).rt.find cid).isSome = true := by
    obtain ⟨after, foundAfter, _⟩ := record_of_flag only.flag ending.record
    simp [foundAfter]
  have kept := cancels_handleEvent tidy.consistent.idle cid (.disconnected false) env present
  refine ⟨record_of_flag only.flag ending.record, continues_execute kept later, ?_,
    fun online => ?_⟩
  · change ((s.app.handleEvent cid (.disconnected false) env).stateOf cid).phase = _
    rw [handled, phase]
  · change ((s.app.handleEvent cid (.disconnected false) env).timerOf cid).isSome = true
    rw [handled]
    refine timer ?_
    rw [← only.network]
    exact online

/-- An event of the session that does not end it. -/
theorem healing_note {s : System} {cid : ConnectionId} {event : TsEngineEvent}
    {rest : List (ConnectionId × TsEngineEvent)} {env : Ambient} (tidy : Tidy s)
    (waits : Ending cid s ∨ Pending cid s) (queue : s.engine.events = (cid, event) :: rest)
    (goes_on : event.isTerminal = false) :
    Ending cid (System.settle (s.app.handleEvent cid event env) (s.engine.leave rest) false) ∨
      Pending cid (System.settle (s.app.handleEvent cid event env) (s.engine.leave rest) false) := by
  obtain ⟨voice, continues, greeted⟩ : ∃ voice, Continues s.engine cid voice ∧ voice ≠ .greeting :=
    waits.elim (·.heard) fun pending => ⟨.silent, pending.heard, nofun⟩
  obtain ⟨next, spoken, later⟩ := continues.pop queue
  have notConnected : ∀ data, event ≠ .connected data := by
    rintro data rfl
    cases voice with
    | greeting => exact greeted rfl
    | talking | silent => cases spoken
  have idle : decides event = false := by
    cases event <;> first | rfl | exact absurd rfl (notConnected _) | cases goes_on
  obtain ⟨sameRt, sameNative⟩ := s.app.handleEvent_idle cid env idle
  have calmer := s.app.calmer_handleEvent cid env notConnected
  have only := only_handleEvent s.app cid event env
  rw [settle_of_idle (sameNative.trans tidy.consistent.idle)]
  refine waits.imp
    (fun ending => ⟨record_of_flag only.flag ending.record, ⟨next, later, ?_⟩, ?_, ?_⟩)
    fun pending => ?_
  · rintro rfl
    have order := Voice.rank_speak spoken
    cases voice with
    | greeting => exact greeted rfl
    | talking | silent => exact absurd order (by decide)
  · cases connecting : ((s.app.handleEvent cid event env).stateOf cid).connecting with
    | false => rfl
    | true => exact (calmer.connecting cid connecting).symm.trans ending.idle
  · refine ending.ends.imp_right fun pending => ?_
    rw [queue] at pending
    rcases List.mem_cons.mp pending with now | behind
    · cases now
      cases goes_on
    · exact behind
  · obtain ⟨session, said, _, listened, _⟩ := pending.heard
    have isOther : event = .other := Voice.other_of_silent listened event
      (mem_eventsOf.mpr (by simp [queue]))
    subst isOther
    obtain ⟨after, spokenSilent, laterSilent⟩ := pending.heard.pop queue
    cases spokenSilent
    have state : (s.app.handleEvent cid .other env).stateOf cid = s.app.stateOf cid := by
      unfold handleEvent
      split
      · rfl
      · exact stateOf_setSession_self ..
    refine pending.keep only.flag (congrArg (·.phase) state) (fun online => ⟨?_, ?_⟩) laterSilent
    · rw [← only.network]
      exact online
    · simp only [timerOf, sameRt]

theorem healing_deliver {s : System} {cid polled : ConnectionId} {event : TsEngineEvent}
    {rest : List (ConnectionId × TsEngineEvent)} {env : Ambient} (tidy : Tidy s)
    (waits : Ending cid s ∨ Pending cid s) (queue : s.engine.events = (polled, event) :: rest) :
    Ending cid (System.settle (s.app.handleEvent polled event env) (s.engine.leave rest) false) ∨
      Pending cid
        (System.settle (s.app.handleEvent polled event env) (s.engine.leave rest) false) := by
  by_cases own : polled = cid
  · subst own
    cases ends : event.isTerminal with
    | false => exact healing_note tidy waits queue ends
    | true =>
      rcases waits with ending | pending
      · exact .inr (healing_end tidy ending queue ends)
      · obtain ⟨next, spoken, _⟩ := pending.heard.pop queue
        exact absurd rfl (Voice.silent_of_terminal ends spoken).1
  · have different : cid ≠ polled := fun same => own same.symm
    have only := only_handleEvent s.app polled event env
    obtain ⟨voice, continues⟩ : ∃ voice, Continues s.engine cid voice :=
      waits.elim (fun ending => ending.heard.imp fun _ => And.left) fun pending =>
        ⟨.silent, pending.heard⟩
    have popped := continues.pop_other queue own
    have apart : ∀ call ∈ (s.app.handleEvent polled event env).native, calledFor call = cid →
        call = .disconnect cid ∧ OutOfReach (s.engine.leave rest) cid := by
      intro call called about
      rcases only.native call called with earlier | ofPolled
      · rw [tidy.consistent.idle] at earlier
        cases earlier
      · exact absurd (ofPolled.symm.trans about) own
    obtain ⟨sessions, events⟩ := frame_execute false popped apart
    refine frame_pending waits (only.rt cid different) (only.state cid different) only.network
      ⟨sessions, events.trans ?_⟩
    rw [eventsOf_pop queue cid, if_neg own]
    rfl

theorem healing_engine {s : System} {cid : ConnectionId} {action : EngineAction} {engine : Engine}
    (waits : Ending cid s ∨ Pending cid s) (alone : EndsByItself cid s (.engine action))
    (moved : s.engine.step action = some engine) :
    Ending cid ⟨s.app, engine⟩ ∨ Pending cid ⟨s.app, engine⟩ := by
  refine waits.imp (fun ending => ?_) fun pending => ?_
  · obtain ⟨voice, continues, greeted⟩ := ending.heard
    refine ⟨ending.record, ⟨voice, continues_step continues moved, greeted⟩, ending.idle, ?_⟩
    rcases ending.ends with running | lost
    · refine runs_step running moved ?_
      rintro ended rfl
      exact alone
    · exact .inr (Engine.events_step moved lost)
  · exact pending.keep rfl rfl (fun online => ⟨online, rfl⟩) (continues_step pending.heard moved)

/-- One step without the user, in which the session ends by itself. -/
theorem healing_step {lost s t : System} {cid : ConnectionId} {action : System.Action}
    (tidy : Tidy s) (healing : Healing cid lost s) (unaided : Unaided action)
    (alone : EndsByItself cid s action) (taken : s.step action = some t) :
    Healing cid lost t := by
  obtain ⟨older, healing⟩ := healing
  have grows := prefix_step unaided taken
  refine ⟨older.trans grows.length_le, ?_⟩
  rw [← or_assoc] at healing ⊢
  rcases healing with waits | retried
  swap
  · exact .inr (retried.mono grows)
  cases action with
  | app action reported =>
    cases action with
    | completeConnect call reply =>
      cases reply with
      | some => cases taken
      | none =>
        obtain ⟨-, rfl⟩ := System.step_refused taken
        have idle : (s.app.completeConnect call none).native = [] := tidy.consistent.idle
        rw [settle_of_idle idle]
        exact .inl (frame_pending waits rfl rfl rfl ⟨rfl, rfl⟩)
    | timer fired =>
      obtain ⟨rt, timer, found, -, rfl⟩ := System.step_timer taken
      exact healing_timer tidy older waits found reported
    | network status =>
      cases taken
      exact healing_network tidy older waits alone
    | _ => exact unaided.elim
  | accept call =>
    simp only [System.step, Option.ite_none_right_eq_some, Option.some.injEq] at taken
    obtain ⟨_, rfl⟩ := taken
    exact .inl (healing_accept tidy waits)
  | deliver env =>
    obtain ⟨polled, event, rest, queue, rfl⟩ := System.step_deliver taken
    exact .inl (healing_deliver tidy waits queue)
  | engine action =>
    obtain ⟨engine, moved, rfl⟩ := Option.map_eq_some_iff.mp taken
    exact .inl (healing_engine waits alone moved)

/-- A connected session that the handover does not reach is about to end. -/
theorem ending_of_online {s : System} {cid : ConnectionId} (tidy : Tidy s) (online : Online s cid)
    (far : OutOfReach s.engine cid) : Ending cid s := by
  obtain ⟨rt, found, auto⟩ := online.record
  obtain ⟨voice, continues, settled⟩ := tidy.heard cid (by simp [found])
  obtain ⟨greeted, idle⟩ := settled online.connected
  refine ⟨⟨rt, found, auto⟩, ⟨voice, continues, greeted⟩, idle, far.imp_left ?_⟩
  rintro ⟨session, found, stage⟩
  exact ⟨session, found, by tauto⟩

/-- Once its end was handled, a session that was about to end is healed. -/
theorem Healing.healed {lost t : System} {cid : ConnectionId} (healing : Healing cid lost t)
    (processed : Processed t cid) : Healed lost t cid := by
  simp only [Processed, Engine.weight, Nat.add_eq_zero_iff] at processed
  rcases healing.2 with ending | pending | retried
  · exfalso
    rcases ending.ends with ⟨session, found, stage⟩ | waits
    · have alive : session.stage ≠ .ended := by
        rcases stage with stage | stage | stage | stage <;> simp [stage]
      have running := Engine.openWeight_of_stage found alive
      omega
    · have counted : 0 < t.engine.pendingEnds cid :=
        List.countP_pos_iff.mpr ⟨_, waits, by simp [TsEngineEvent.isTerminal]⟩
      omega
  · obtain ⟨rt, found, _⟩ := pending.record
    cases available : t.app.network.available with
    | true => exact .inl (pending.timer available)
    | false => exact .inr (.inl ⟨available, by simp [found], pending.phase⟩)
  · exact .inr (.inr retried)

/-- In every run from a handover on in which every handover finds the session out of
reach and its event loop does not panic, the session is healed once its end was
handled. -/
theorem handover_heals {history later : List System.Action} {s₀ s t : System} {cid : ConnectionId}
    {status : NetworkStatus} {reported : Bool}
    (before : Run System.step anyStep .start history s₀) (online : Online s₀ cid)
    (handover : status.isHandoverFrom s₀.app.network = true)
    (alone : EndsByItself cid s₀ (.app (.network status) reported))
    (taken : s₀.step (.app (.network status) reported) = some s)
    (run : Run System.step (fun s action => Unaided action ∧ EndsByItself cid s action) s later t)
    (processed : Processed t cid) : Healed s₀ t cid := by
  have tidy := tidy_of_run before
  have unaided : Unaided (.app (.network status) reported) := trivial
  have start : Healing cid s₀ s₀ :=
    ⟨le_rfl, .inl (ending_of_online tidy online (alone handover online.connected))⟩
  have invariant : Tidy t ∧ Healing cid s₀ t :=
    run.invariant (fun s => Tidy s ∧ Healing cid s₀ s)
      ⟨tidy_step tidy taken, healing_step tidy start unaided alone taken⟩
      fun _ _ _ ⟨tidy, healing⟩ ⟨unaided, alone⟩ next =>
        ⟨tidy_step tidy next, healing_step tidy healing unaided alone next⟩
  exact invariant.2.healed processed

/-- A session that is connected over one network and runs. -/
def onlineHistory : List System.Action :=
  [.app (.network ⟨true, "wifi", "1"⟩) false, .app (.connect exampleRequest) false,
    .accept ⟨0, exampleRequest, .user, 0⟩, .engine (.handshakeDone 1),
    .engine (.publish 1 ⟨some 7, "", 0, [], []⟩), .deliver quietEnv, .engine (.stash 1),
    .engine (.take 1), .engine (.startLoop 1)]

/-- The network that replaces it. -/
def otherNetwork : NetworkStatus := ⟨true, "mobile", "2"⟩

theorem online_of_test {s : System}
    (passed : ((s.app.stateOf 1).connected &&
      (s.app.rt.find 1).any fun rt => rt.autoReconnect) = true) : Online s 1 := by
  simp only [Bool.and_eq_true, Option.any_eq_true] at passed
  exact ⟨passed.1, passed.2⟩

/-- The session was lost just before the handover. -/
theorem handover_heals_lost :
    ∃ s₀ s t, Run System.step anyStep .start (onlineHistory ++ [.engine (.drop 1)]) s₀ ∧
      Online s₀ 1 ∧ s₀.step (.app (.network otherNetwork) false) = some s ∧
      Run System.step (fun s action => Unaided action ∧ EndsByItself 1 s action) s
        [.deliver quietEnv] t ∧ Processed t 1 ∧ Healed s₀ t 1 := by
  obtain ⟨s₀, before, passed⟩ := reaches_of_exec anyStep (fun _ _ _ => trivial) (show
    (exec System.step .start (onlineHistory ++ [.engine (.drop 1)])).any (fun s₀ =>
      ((s₀.app.stateOf 1).connected && (s₀.app.rt.find 1).any fun rt => rt.autoReconnect) &&
      s₀.engine.events == [(1, .disconnected false)] &&
      otherNetwork.isHandoverFrom s₀.app.network &&
      (System.step s₀ (.app (.network otherNetwork) false)).any fun s =>
        (exec System.step s [.deliver quietEnv]).any fun t => t.engine.weight 1 == 0) = true by
    decide +kernel)
  simp only [Bool.and_eq_true, beq_iff_eq] at passed
  obtain ⟨⟨⟨online, queue⟩, handover⟩, passed⟩ := passed
  have online := online_of_test (Bool.and_eq_true .. ▸ online)
  obtain ⟨s, taken, passed⟩ := (Option.any_eq_true ..).mp passed
  obtain ⟨t, run, processed⟩ := reaches_of_exec
    (fun s action => Unaided action ∧ EndsByItself 1 s action)
    (by simp [Unaided, EndsByItself]) passed
  have processed : Processed t 1 := by simpa [Processed] using processed
  have alone : EndsByItself 1 s₀ (.app (.network otherNetwork) false) :=
    fun _ _ => .inr (by simp [queue])
  exact ⟨s₀, s, t, before, online, taken, run, processed,
    handover_heals before online handover alone taken run processed⟩

/-- The engine reports the disconnect of the handover as asked for, and the session is
neither scheduled for a reconnect nor retried. -/
theorem handover_ends_session :
    ¬ ∀ (history later : List System.Action) (s₀ s t : System) (cid : ConnectionId)
      (status : NetworkStatus) (reported : Bool),
      Run System.step anyStep .start history s₀ → Online s₀ cid →
      status.isHandoverFrom s₀.app.network = true →
      s₀.step (.app (.network status) reported) = some s →
      Run System.step (fun _ action => Unaided action) s later t →
      Processed t cid → Healed s₀ t cid := by
  intro claimed
  obtain ⟨s₀, before, passed⟩ := reaches_of_exec anyStep (fun _ _ _ => trivial) (show
    (exec System.step .start onlineHistory).any (fun s₀ =>
      ((s₀.app.stateOf 1).connected && (s₀.app.rt.find 1).any fun rt => rt.autoReconnect) &&
      otherNetwork.isHandoverFrom s₀.app.network &&
      (System.step s₀ (.app (.network otherNetwork) false)).any fun s =>
        (exec System.step s [.engine (.drop 1), .deliver quietEnv]).any fun t =>
          t.engine.weight 1 == 0 && (t.app.timerOf 1).isNone && t.app.network.available &&
          (t.app.connectCalls.drop s₀.app.connectCalls.length).isEmpty) = true by
    decide +kernel)
  simp only [Bool.and_eq_true] at passed
  obtain ⟨⟨online, handover⟩, passed⟩ := passed
  have online := online_of_test (Bool.and_eq_true .. ▸ online)
  obtain ⟨s, taken, passed⟩ := (Option.any_eq_true ..).mp passed
  obtain ⟨t, run, passed⟩ := reaches_of_exec (fun _ action => Unaided action)
    (by simp [Unaided]) passed
  simp only [Bool.and_eq_true, beq_iff_eq, Option.isNone_iff_eq_none, List.isEmpty_iff] at passed
  obtain ⟨⟨⟨processed, unarmed⟩, available⟩, uncalled⟩ := passed
  rcases claimed _ _ s₀ s t 1 otherNetwork false before online handover taken run processed with
    armed | ⟨offline, _⟩ | ⟨call, called, _⟩
  · simp [unarmed] at armed
  · simp [available] at offline
  · simp [uncalled] at called

end Nek0.Guarantees
