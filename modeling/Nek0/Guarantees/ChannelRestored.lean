import Nek0.Abstract.ChannelTree
import Nek0.Guarantees.OrderlySessions
import Nek0.Source.SystemSignals

/-!
# Restoring the channel

A session that is lost without being asked to remembers the name of its channel. All attempts
that follow pass this bare name to `connect`, and the session that one of them opens remembers
nothing, so that no move follows. The channel is therefore restored exactly if its bare name is
the path under which the server finds it.
-/

namespace Nek0.Guarantees

open Nek0.Source Nek0.Source.Notifier Nek0.Abstract Nek0.Library

/-- The system after a session was lost, with the sessions and the calls of the attempts that
follow. -/
structure Aftermath where
  system : System
  /-- The lost session and those that attempts have opened. -/
  sessions : List ConnectionId
  /-- The calls made on behalf of these sessions. -/
  calls : List ConnectCall

namespace Aftermath

def begin (s : System) (cid : ConnectionId) : Aftermath := ⟨s, [cid], []⟩

/-- The new calls on behalf of one of the sessions. -/
def newCalls (a : Aftermath) (t : System) : List ConnectCall :=
  (t.app.connectCalls.drop a.system.app.connectCalls.length).filter fun call =>
    call.origin.session.any (· ∈ a.sessions)

def opened (a : Aftermath) : System.Action → List ConnectionId
  | .accept call => if call ∈ a.calls then [a.system.engine.nextConnectionId] else []
  | _ => []

def step (a : Aftermath) (action : System.Action) : Option Aftermath :=
  (a.system.step action).map fun t =>
    ⟨t, a.opened action ++ a.sessions, a.calls ++ a.newCalls t⟩

/-- No attempt has succeeded yet, and the user has not given up. -/
def stillTrying (a : Aftermath) : System.Action → Bool
  | .app (.disconnect cid) _ => cid ∉ a.sessions
  | .deliver _ =>
    match a.system.engine.events with
    | (cid, .connected _) :: _ => cid ∉ a.sessions
    | _ => true
  | _ => true

end Aftermath

/-- A connected session is about to learn that it was lost. -/
structure Drops (s : System) (cid : ConnectionId) : Prop where
  record : (s.app.rt.find cid).isSome = true
  connected : (s.app.stateOf cid).connected = true
  pending : ∃ rest, s.engine.events = (cid, .disconnected false) :: rest

def moveOf (cid : ConnectionId) : NativeCall → Option Nat
  | .moveToChannel moved channel => if moved = cid then some channel else none
  | _ => none

/-- The channel that the server finds for a request of `connect`. An empty name is also what the
engine sends when it asks for none. -/
def requested (segments : String → List String) (tree : Abstract.ChannelTree)
    (request : Option ConnectRequest) : Option Nat :=
  ((request.bind (·.channel)).filter (· ≠ "")).bind fun name => tree.resolve none (segments name)

/-- The roster shows the client in a channel whose name is the whole path to this one. -/
def ShownFromTop (segments : String → List String) (tree : Abstract.ChannelTree) (channel : Nat)
    (st : TsConnectionState) : Prop :=
  ∃ own shown, st.clients.find? (·.id == st.ownClientId) = some own ∧
    st.channels.find? (·.id == own.channelId) = some shown ∧ shown.name ≠ "" ∧
    tree.PathTo none (segments shown.name) channel

/-- The channel is asked for and no other, or it is gone and no move is asked for. -/
structure Restored (tree : Abstract.ChannelTree) (channel : Nat) (joined : Option Nat)
    (moves : List Nat) : Prop where
  asks : tree.Has channel → channel ∈ joined.toList ++ moves
  onlyFor : tree.Has channel → ∀ other ∈ joined.toList ++ moves, other = channel
  stays : ¬ tree.Has channel → moves = []

/-- An attempt of a session would pass the name to `connect`. -/
structure Repeats (name : String) (rt : SessionRuntime) : Prop where
  request : ∀ request, rt.lastRequest = some request →
    (retryRequest rt request).channel = some name
  timer : ∀ timer, rt.reconnectTimer = some timer →
    (retryRequest rt timer.request).channel = some name

section App

variable {name : String} {cid : ConnectionId} {ids : List ConnectionId} {s t u : Notifier}

/-- The sessions of the attempts as long as none has succeeded. Only the lost one remembers a
channel itself. -/
structure Recalls (name : String) (cid : ConnectionId) (ids : List ConnectionId) (s : Notifier) :
    Prop where
  repeats : ∀ q ∈ ids, ∀ rt, s.rt.find q = some rt → Repeats name rt
  forgets : ∀ q ∈ ids, q ≠ cid → ∀ rt, s.rt.find q = some rt → rt.channelToRestore = none
  offline : ∀ q ∈ ids, (s.stateOf q).connected = false

/-- The new calls for the sessions pass the name. -/
def Passes (name : String) (ids : List ConnectionId) (s t : Notifier) : Prop :=
  ∃ calls, t.connectCalls = s.connectCalls ++ calls ∧
    ∀ call ∈ calls, ∀ q ∈ ids, call.origin.session = some q → call.request.channel = some name

/-- The attempts go on. -/
def GoesOn (name : String) (cid : ConnectionId) (ids : List ConnectionId) (s t : Notifier) : Prop :=
  Recalls name cid ids s → Recalls name cid ids t ∧ Passes name ids s t

theorem passes_none (same : t.connectCalls = s.connectCalls) : Passes name ids s t :=
  ⟨[], by rw [same, List.append_nil], fun _ listed => by cases listed⟩

theorem GoesOn.refl (s : Notifier) : GoesOn name cid ids s s :=
  fun recalls => ⟨recalls, passes_none rfl⟩

theorem GoesOn.trans (first : GoesOn name cid ids s t) (second : GoesOn name cid ids t u) :
    GoesOn name cid ids s u := by
  intro recalls
  obtain ⟨recalls, early, earlyCalls, earlyPass⟩ := first recalls
  obtain ⟨recalls, late, lateCalls, latePass⟩ := second recalls
  refine ⟨recalls, early ++ late, by rw [lateCalls, earlyCalls, List.append_assoc], ?_⟩
  intro call listed
  rcases List.mem_append.mp listed with listed | listed
  · exact earlyPass call listed
  · exact latePass call listed

theorem goesOn_foldl {step : Notifier → ConnectionId → Notifier}
    (each : ∀ s q, GoesOn name cid ids s (step s q)) (cids : List ConnectionId) (s : Notifier) :
    GoesOn name cid ids s (cids.foldl step s) := by
  induction cids generalizing s with
  | nil => exact .refl s
  | cons q rest ih => exact (each s q).trans (ih (step s q))

theorem Repeats.congr {before after : SessionRuntime} (repeats : Repeats name before)
    (follows : Follows after before) (same : after.channelToRestore = before.channelToRestore) :
    Repeats name after := by
  obtain ⟨-, last, timer⟩ := follows
  constructor
  · intro request made
    rw [last] at made
    simpa [retryRequest, same] using repeats.request request made
  · intro armed set
    rcases timer with kept | gone
    · rw [kept] at set
      simpa [retryRequest, same] using repeats.timer armed set
    · cases gone.symm.trans set

/-- What the sessions remember stays, and at most their timers are cancelled. -/
theorem goesOn_of_follows
    (rt : ∀ q ∈ ids, ∀ after, t.rt.find q = some after → ∃ before, s.rt.find q = some before ∧
      Follows after before ∧ after.channelToRestore = before.channelToRestore)
    (calmer : ∀ q ∈ ids, (t.stateOf q).connected = true → (s.stateOf q).connected = true)
    (passes : Passes name ids s t) : GoesOn name cid ids s t := by
  intro recalls
  refine ⟨⟨fun q inside after found => ?_, fun q inside other after found => ?_,
    fun q inside => ?_⟩, passes⟩
  · obtain ⟨before, foundBefore, follows, same⟩ := rt q inside after found
    exact (recalls.repeats q inside before foundBefore).congr follows same
  · obtain ⟨before, foundBefore, -, same⟩ := rt q inside after found
    rw [same]
    exact recalls.forgets q inside other before foundBefore
  · have before := recalls.offline q inside
    cases connected : (t.stateOf q).connected with
    | false => rfl
    | true => exact (calmer q inside connected).symm.trans before

/-- The runtime is left alone. -/
theorem goesOn_of_same (rt : t.rt = s.rt) (calmer : Calmer s t)
    (calls : t.connectCalls = s.connectCalls) : GoesOn name cid ids s t := by
  refine goesOn_of_follows (fun q _ after found => ⟨after, rt ▸ found, .refl after, rfl⟩)
    (fun q _ => calmer.connected q) (passes_none calls)

/-- Another session changes. -/
theorem goesOn_of_only {q : ConnectionId} (only : Only q s t) (other : q ∉ ids)
    (calls : t.connectCalls = s.connectCalls) : GoesOn name cid ids s t := by
  have different : ∀ r ∈ ids, r ≠ q := fun r inside same => other (same ▸ inside)
  refine goesOn_of_follows (fun r inside after found => ?_) (fun r inside connected => ?_)
    (passes_none calls)
  · rw [only.rt r (different r inside)] at found
    exact ⟨after, found, .refl after, rfl⟩
  · rwa [only.state r (different r inside)] at connected

theorem goesOn_modifyRt (s : Notifier) (q : ConnectionId)
    (change : SessionRuntime → SessionRuntime)
    (follows : ∀ rt, Follows (change rt) rt ∧ (change rt).channelToRestore = rt.channelToRestore) :
    GoesOn name cid ids s (s.modifyRt q change) := by
  refine goesOn_of_follows (fun r _ after found => ?_) (fun _ _ => id) (passes_none rfl)
  rw [find_modifyRt] at found
  split at found
  · obtain ⟨before, foundBefore, rfl⟩ := Option.map_eq_some_iff.mp found
    exact ⟨before, foundBefore, follows before⟩
  · exact ⟨after, found, .refl after, rfl⟩

theorem goesOn_cancelTimer (s : Notifier) (q : ConnectionId) :
    GoesOn name cid ids s (s.cancelTimer q) :=
  goesOn_modifyRt s q _ fun _ => ⟨⟨rfl, rfl, .inr rfl⟩, rfl⟩

theorem goesOn_setSession (s : Notifier) (q : ConnectionId) (next : TsConnectionState)
    (calm : next.connected = true → (s.stateOf q).connected = true) :
    GoesOn name cid ids s (s.setSession q next) := by
  refine goesOn_of_follows (fun r _ after found => ⟨after, found, .refl after, rfl⟩)
    (fun r _ connected => ?_) (passes_none rfl)
  rw [stateOf_setSession] at connected
  split at connected
  · next same => exact same ▸ calm connected
  · exact connected

/-- An attempt of a session passes what the session would repeat. -/
theorem goesOn_repeatConnect (s : Notifier) {q : ConnectionId} {request : ConnectRequest}
    {origin : Origin} (chain : ChainId) (own : origin.session = some q)
    (passes : Recalls name cid ids s → q ∈ ids → request.channel = some name) :
    GoesOn name cid ids s (s.repeatConnect q request origin chain) := by
  intro recalls
  have calls := calls_repeatConnect s q request origin chain
  have same : ∀ r, ((s.repeatConnect q request origin chain).stateOf r) = s.stateOf r :=
    fun r => stateOf_repeatConnect ..
  refine goesOn_of_follows (fun r _ after found => ?_) (fun r _ connected => ?_) ?_ recalls
  · have cancelled : (s.cancelTimer q).rt.find r = some after := found
    rw [find_cancelTimer] at cancelled
    split at cancelled
    · obtain ⟨before, foundBefore, rfl⟩ := Option.map_eq_some_iff.mp cancelled
      exact ⟨before, foundBefore, ⟨rfl, rfl, .inr rfl⟩, rfl⟩
    · exact ⟨after, cancelled, .refl after, rfl⟩
  · rwa [same] at connected
  · refine ⟨[_], calls.connectCalls, fun call listed r inside behalf => ?_⟩
    obtain rfl := List.mem_singleton.mp listed
    obtain rfl := Option.some.inj (own.symm.trans behalf)
    exact passes recalls inside

theorem goesOn_retryNow (s : Notifier) (q : ConnectionId) :
    GoesOn name cid ids s (s.retryNow q) := by
  rcases s.retryNow_cases q with same | ⟨rt, request, found, last, called⟩
  · rw [same]
    exact .refl s
  · rw [called]
    exact goesOn_repeatConnect s rt.chain rfl fun recalls inside =>
      (recalls.repeats q inside rt found).request request last

theorem goesOn_timerFired (s : Notifier) {q : ConnectionId} {rt : SessionRuntime}
    {timer : ReconnectTimer} (found : s.rt.find q = some rt)
    (armed : rt.reconnectTimer = some timer) :
    GoesOn name cid ids s (s.timerFired q rt timer) := by
  rcases s.timerFired_cases q rt timer with silent | called
  · rw [silent]
    exact goesOn_cancelTimer s q
  · rw [called]
    exact goesOn_repeatConnect s rt.chain rfl fun recalls inside =>
      (recalls.repeats q inside rt found).timer timer armed

theorem goesOn_setAutoReconnect (s : Notifier) (q : ConnectionId) (enabled : Bool) :
    GoesOn name cid ids s (s.setAutoReconnect q enabled) := by
  have flagged : GoesOn name cid ids s
      { s.modifyRt q fun rt => { rt with autoReconnect := enabled } with
        autoReconnectPref := some enabled } :=
    (goesOn_modifyRt s q (fun rt => { rt with autoReconnect := enabled })
      fun _ => ⟨⟨rfl, rfl, .inl rfl⟩, rfl⟩).trans (goesOn_of_same rfl (calmer_of_same rfl) rfl)
  unfold setAutoReconnect
  split
  · exact .refl s
  · cases enabled with
    | true => exact flagged.trans (goesOn_setSession _ q _ id)
    | false => exact (flagged.trans (goesOn_cancelTimer _ q)).trans (goesOn_setSession _ q _ id)

theorem goesOn_loadReconnectPreference (s : Notifier) :
    GoesOn name cid ids s s.loadReconnectPreference := by
  refine goesOn_foldl (fun s q => ?_) _ s
  split
  · exact .refl s
  · dsimp only
    refine (goesOn_modifyRt s q _ ?_).trans (goesOn_setSession _ q _ ?_)
    · exact fun _ => ⟨⟨rfl, rfl, .inl rfl⟩, rfl⟩
    · exact id

/-- Nobody of the sessions is connected. -/
theorem goesOn_dropForHandover (s : Notifier) (q : ConnectionId) :
    GoesOn name cid ids s (s.dropForHandover q) := by
  intro recalls
  by_cases other : q ∈ ids
  · have idle : s.dropForHandover q = s := by
      unfold dropForHandover
      rw [if_neg (by simp [recalls.offline q other])]
    rw [idle]
    exact GoesOn.refl s recalls
  · have only : Only q s (s.dropForHandover q) := by
      unfold dropForHandover
      split
      · exact (only_modifyRt s (fun rt =>
          { rt with channelToRestore := some (s.currentChannelName q) }) fun _ => rfl).trans
          (only_callNative _ rfl)
      · exact .refl s
    exact goesOn_of_only only other (quiet_dropForHandover s q).connectCalls recalls

theorem goesOn_stopCountdown (s : Notifier) (q : ConnectionId) :
    GoesOn name cid ids s (s.stopCountdown q) := by
  unfold stopCountdown
  split
  · exact (goesOn_cancelTimer s q).trans (goesOn_setSession _ q _ id)
  · exact .refl s

theorem goesOn_retryWaiting (s : Notifier) (q : ConnectionId) :
    GoesOn name cid ids s (s.retryWaiting q) := by
  unfold retryWaiting
  split
  · exact goesOn_retryNow s q
  · exact .refl s

theorem goesOn_onNetworkChanged (s : Notifier) (status : NetworkStatus) :
    GoesOn name cid ids s (s.onNetworkChanged status) := by
  have noted : GoesOn name cid ids s (s.noteNetwork status) :=
    goesOn_of_same rfl (calmer_of_same rfl) rfl
  unfold onNetworkChanged
  dsimp only
  split
  · exact noted.trans (goesOn_foldl goesOn_dropForHandover _ _)
  split
  · exact noted.trans (goesOn_foldl goesOn_stopCountdown _ _)
  split
  · exact noted.trans (goesOn_foldl goesOn_retryWaiting _ _)
  · exact noted

theorem goesOn_cancelConnect (s : Notifier) (q : ConnectionId) :
    GoesOn name cid ids s (s.cancelConnect q) := by
  refine goesOn_of_follows (fun r _ after found => ?_)
    (fun r _ => (calmer_cancelConnect s q).connected r) (passes_none rfl)
  have erased : (s.rt.erase q).find r = some after := found
  by_cases same : r = q
  · subst same
    simp at erased
  · rw [LinkedMap.find_erase_of_ne _ same] at erased
    exact ⟨after, erased, .refl after, rfl⟩

theorem connected_armReconnect (s : Notifier) (q r : ConnectionId) (chain : ChainId)
    (request : ConnectRequest) (delay now : Nat) :
    ((s.armReconnect q chain request delay now).stateOf r).connected =
      (s.stateOf r).connected := by
  have written : (s.armReconnect q chain request delay now).stateOf r =
      (s.setSession q
        { s.stateOf q with
          phase := .reconnecting
          reconnectAttempt := (s.stateOf q).reconnectAttempt + 1
          reconnectAt := some (now + delay) }).stateOf r := rfl
  rw [written, stateOf_setSession]
  split
  · next same => rw [same]
  · rfl

/-- A failed attempt arms the timer of its session. -/
theorem goesOn_armReconnect (s : Notifier) {q : ConnectionId} {rt : SessionRuntime}
    {request : ConnectRequest} (delay now : Nat) (found : s.rt.find q = some rt)
    (last : rt.lastRequest = some request) :
    GoesOn name cid ids s (s.armReconnect q rt.chain request delay now) := by
  intro recalls
  have record : ∀ r, (s.armReconnect q rt.chain request delay now).rt.find r =
      if r = q then some { rt with reconnectTimer := some ⟨request, delay⟩ }
      else s.rt.find r := by
    intro r
    by_cases same : r = q
    · simp [armReconnect, same, found]
    · simp [armReconnect, find_modifyRt, same]
  refine ⟨⟨fun r inside after foundAfter => ?_, fun r inside other after foundAfter => ?_,
    fun r inside => ?_⟩, passes_none rfl⟩
  · rw [record] at foundAfter
    split at foundAfter
    · next same =>
      subst same
      obtain rfl := Option.some.inj foundAfter
      have before := recalls.repeats r inside rt found
      refine ⟨before.request, fun timer armed => ?_⟩
      obtain rfl := Option.some.inj armed
      exact before.request request last
    · exact recalls.repeats r inside after foundAfter
  · rw [record] at foundAfter
    split at foundAfter
    · next same =>
      subst same
      obtain rfl := Option.some.inj foundAfter
      exact recalls.forgets r inside other rt found
    · exact recalls.forgets r inside other after foundAfter
  · rw [connected_armReconnect]
    exact recalls.offline r inside

theorem goesOn_maybeScheduleReconnect (s : Notifier) (q : ConnectionId) (kind : String)
    (retryable : Bool) (env : Ambient) :
    GoesOn name cid ids s (s.maybeScheduleReconnect q kind retryable env) := by
  unfold maybeScheduleReconnect
  split
  · exact .refl s
  next rt found =>
  split
  · exact .refl s
  next request last =>
  split
  · exact .refl s
  dsimp only
  split
  · exact goesOn_setSession s q _ id
  split
  · exact goesOn_setSession s q _ id
  · exact goesOn_armReconnect s _ _ found last

theorem goesOn_handleConnectFailed (s : Notifier) (q : ConnectionId) (kind : String)
    (retryable : Bool) (env : Ambient) :
    GoesOn name cid ids s (s.handleConnectFailed q kind retryable env) := by
  have failed : GoesOn name cid ids s (s.setSession q
      { s.stateOf q with connecting := false, connected := false, phase := .failed }) :=
    goesOn_setSession s q _ fun connected => by cases connected
  exact failed.trans (goesOn_maybeScheduleReconnect _ q kind retryable env)

/-- An event that ends no attempt with success. -/
theorem goesOn_handleEvent (s : Notifier) (q : ConnectionId) (event : TsEngineEvent)
    (env : Ambient) (trying : q ∈ ids → Engine.signalOf event = none) :
    GoesOn name cid ids s (s.handleEvent q event env) := by
  have calls : (s.handleEvent q event env).connectCalls = s.connectCalls := by
    rcases s.handleEvent_cases q event env with quiet | ⟨-, chain, request, arms⟩
    · exact quiet.connectCalls
    · exact arms.connectCalls
  by_cases inside : q ∈ ids
  · have silent := trying inside
    have calmer : Calmer s (s.handleEvent q event env) := by
      refine calmer_handleEvent s q env fun data connected => ?_
      subst connected
      cases silent
    by_cases idle : decides event = false
    · exact goesOn_of_same (handleEvent_idle s q env idle).1 calmer calls
    · cases event with
      | connectFailed kind retryable =>
        unfold handleEvent
        split
        · exact .refl s
        · exact goesOn_handleConnectFailed s q kind retryable env
      | connected data => cases silent
      | disconnected expected => cases silent
      | _ => exact absurd rfl idle
  · exact goesOn_of_only (only_handleEvent s q event env) inside calls

end App

section Attempts

variable {name : String} {cid : ConnectionId}

/-- What holds from the loss of a session on, until an attempt succeeds. -/
structure Remembers (name : String) (cid : ConnectionId) (a : Aftermath) : Prop where
  tidy : Tidy a.system
  lost : cid ∈ a.sessions
  known : ∀ q ∈ a.sessions, q < a.system.engine.nextConnectionId
  calls : ∀ call ∈ a.calls, call.request.channel = some name
  recalls : Recalls name cid a.sessions a.system.app
  gone : a.system.engine.toCome cid = []
  ahead : ∀ q ∈ a.sessions, q ≠ cid → a.system.engine.toCome q <+: [.up, .down]

/-- The first signal of a session that is still trying is its greeting. -/
theorem Remembers.greets {a : Aftermath} (remembers : Remembers name cid a) {q : ConnectionId}
    (tried : q ∈ a.sessions) {signal : Engine.Signal} {rest : List Engine.Signal}
    (coming : a.system.engine.toCome q = signal :: rest) : q ≠ cid ∧ signal = .up := by
  have other : q ≠ cid := by
    rintro rfl
    cases coming.symm.trans remembers.gone
  have ahead := remembers.ahead q tried other
  rw [coming] at ahead
  exact ⟨other, (List.cons_prefix_cons.mp ahead).1⟩

theorem mem_newCalls {a : Aftermath} {t : System}
    (passes : Passes name a.sessions a.system.app t.app) :
    ∀ call ∈ a.newCalls t, call.request.channel = some name := by
  obtain ⟨calls, made, pass⟩ := passes
  intro call listed
  simp only [Aftermath.newCalls, made, List.drop_left, List.mem_filter, Option.any_eq_true,
    decide_eq_true_eq] at listed
  obtain ⟨new, q, behalf, tried⟩ := listed
  exact pass call new q tried behalf

/-- A step that opens no session. -/
theorem Remembers.goesOn {a : Aftermath} {t : System} (remembers : Remembers name cid a)
    (tidy : Tidy t) (goes : GoesOn name cid a.sessions a.system.app t.app)
    (next : t.engine.nextConnectionId = a.system.engine.nextConnectionId)
    (toCome : ∀ q ∈ a.sessions, t.engine.toCome q <+: a.system.engine.toCome q) :
    Remembers name cid ⟨t, a.sessions, a.calls ++ a.newCalls t⟩ := by
  obtain ⟨recalls, passes⟩ := goes remembers.recalls
  refine ⟨tidy, remembers.lost, fun _ tried => next ▸ remembers.known _ tried,
    fun call listed => ?_, recalls, ?_,
    fun q tried other => (toCome q tried).trans (remembers.ahead q tried other)⟩
  · rcases List.mem_append.mp listed with earlier | new
    · exact remembers.calls call earlier
    · exact mem_newCalls passes call new
  · have shorter := toCome cid remembers.lost
    rw [remembers.gone] at shorter
    exact List.prefix_nil.mp shorter

/-- A step of the app alone. -/
theorem Remembers.app {a : Aftermath} {app : Notifier} {reported : Bool}
    (remembers : Remembers name cid a)
    (goes : GoesOn name cid a.sessions a.system.app app)
    (tidy : Tidy (System.settle app a.system.engine reported)) :
    Remembers name cid ⟨System.settle app a.system.engine reported, a.sessions,
      a.calls ++ a.newCalls (System.settle app a.system.engine reported)⟩ :=
  remembers.goesOn tidy (goes.trans (goesOn_of_same rfl (calmer_of_same rfl) rfl))
    (Engine.next_execute ..) fun _ _ => Engine.toCome_execute ..

/-- An event that is not the success of an attempt. -/
theorem Remembers.deliver {a : Aftermath} (remembers : Remembers name cid a)
    {q : ConnectionId} {event : TsEngineEvent} {env : Ambient}
    {rest : List (ConnectionId × TsEngineEvent)} (queue : a.system.engine.events = (q, event) :: rest)
    (trying : q ∈ a.sessions → ∀ data, event ≠ .connected data)
    (tidy : Tidy (System.settle (a.system.app.handleEvent q event env) (a.system.engine.leave rest)
      false)) :
    Remembers name cid ⟨System.settle (a.system.app.handleEvent q event env)
        (a.system.engine.leave rest) false, a.sessions,
      a.calls ++ a.newCalls (System.settle (a.system.app.handleEvent q event env)
        (a.system.engine.leave rest) false)⟩ := by
  have popped := Engine.toCome_leave queue
  have silent : q ∈ a.sessions → Engine.signalOf event = none := by
    intro tried
    cases signal : Engine.signalOf event with
    | none => rfl
    | some sent =>
      have coming := popped q
      rw [if_pos rfl, signal] at coming
      obtain ⟨-, rfl⟩ := remembers.greets tried coming
      cases event with
      | connected data => exact absurd rfl (trying tried data)
      | _ => cases signal
  refine remembers.goesOn tidy
    ((goesOn_handleEvent a.system.app q event env silent).trans
      (goesOn_of_same rfl (calmer_of_same rfl) rfl))
    (Engine.next_execute ..) (fun r tried => ?_)
  refine (Engine.toCome_execute ..).trans ?_
  rw [popped r]
  split
  · next same => rw [silent (same ▸ tried)]; exact List.prefix_rfl
  · exact List.prefix_rfl

/-- A call that reaches the engine opens a session of the attempts if it is theirs. -/
theorem Remembers.accept {a : Aftermath} (remembers : Remembers name cid a)
    {call : ConnectCall}
    (tidy : Tidy (System.settle
      (a.system.app.completeConnect call (some a.system.engine.nextConnectionId))
      (a.system.engine.openSession call.chain) false)) :
    Remembers name cid ⟨System.settle
        (a.system.app.completeConnect call (some a.system.engine.nextConnectionId))
        (a.system.engine.openSession call.chain) false,
      a.opened (.accept call) ++ a.sessions,
      a.calls ++ a.newCalls (System.settle
        (a.system.app.completeConnect call (some a.system.engine.nextConnectionId))
        (a.system.engine.openSession call.chain) false)⟩ := by
  have consistent := remembers.tidy.consistent
  have unused := consistent.unused
  have silent := remembers.tidy.fresh a.system.engine.nextConnectionId le_rfl
  have coming : ∀ q, (a.system.engine.openSession call.chain).toCome q =
      a.system.engine.toCome q := fun q => Engine.toCome_openSession _ _ q unused
  have fresh : a.system.engine.toCome a.system.engine.nextConnectionId = [.up, .down] := by
    refine Engine.toCome_unused unused fun event waits => ?_
    have known := consistent.events _ _ waits
    simp [unused] at known
  rcases a.system.app.completeConnect_cases call (some a.system.engine.nextConnectionId) with
    ⟨refused, _⟩ | ⟨new, accepted, _, _, calls, _, native, _, inserted, states⟩
  · exact absurd (refused _ rfl) consistent.positive.ne'
  obtain rfl : a.system.engine.nextConnectionId = new := by simpa using accepted
  generalize a.system.app.completeConnect call (some a.system.engine.nextConnectionId) = app at *
  rw [settle_of_idle (native.trans consistent.idle)] at tidy ⊢
  have later : ∀ q ∈ a.sessions, q ≠ a.system.engine.nextConnectionId :=
    fun q tried => (remembers.known q tried).ne
  have goes : GoesOn name cid a.sessions a.system.app app := by
    refine goesOn_of_follows (fun q tried after found => ?_) (fun q tried connected => ?_)
      (passes_none calls)
    · rw [inserted, LinkedMap.find_insert_of_ne _ _ (later q tried)] at found
      exact ⟨after, found, .refl after, rfl⟩
    · rwa [states, if_neg (later q tried)] at connected
  obtain ⟨recalls, passes⟩ := goes remembers.recalls
  have opened : ∀ q ∈ a.opened (.accept call),
      q = a.system.engine.nextConnectionId ∧ call ∈ a.calls := by
    intro q listed
    simp only [Aftermath.opened] at listed
    split at listed
    · next own => exact ⟨List.mem_singleton.mp listed, own⟩
    · cases listed
  have record : ∀ rt, app.rt.find a.system.engine.nextConnectionId = some rt →
      rt.lastRequest = some call.request ∧ rt.reconnectTimer = none ∧
        rt.channelToRestore = none := by
    intro rt found
    rw [inserted, LinkedMap.find_insert_self] at found
    obtain rfl := Option.some.inj found
    exact ⟨rfl, rfl, rfl⟩
  refine ⟨tidy, List.mem_append_right _ remembers.lost, fun q listed => ?_,
    fun made listed => ?_, ⟨fun q listed rt found => ?_, fun q listed other rt found => ?_,
    fun q listed => ?_⟩, (coming cid).trans remembers.gone, fun q listed other => ?_⟩
  · change q < a.system.engine.nextConnectionId + 1
    rcases List.mem_append.mp listed with new | earlier
    · rw [(opened q new).1]
      exact Nat.lt_succ_self _
    · exact Nat.lt_succ_of_lt (remembers.known q earlier)
  · rcases List.mem_append.mp listed with earlier | new
    · exact remembers.calls made earlier
    · exact mem_newCalls passes made new
  · rcases List.mem_append.mp listed with new | earlier
    · obtain ⟨rfl, own⟩ := opened q new
      obtain ⟨last, timer, nothing⟩ := record rt found
      constructor
      · intro request made
        obtain rfl := Option.some.inj (last.symm.trans made)
        simpa [retryRequest, nothing] using remembers.calls call own
      · intro armed set
        cases timer.symm.trans set
    · exact recalls.repeats q earlier rt found
  · rcases List.mem_append.mp listed with new | earlier
    · obtain ⟨rfl, -⟩ := opened q new
      exact (record rt found).2.2
    · exact recalls.forgets q earlier other rt found
  · rcases List.mem_append.mp listed with new | earlier
    · obtain ⟨rfl, -⟩ := opened q new
      change (app.stateOf _).connected = false
      rw [states, if_pos rfl]
      exact silent
    · exact recalls.offline q earlier
  · change (a.system.engine.openSession call.chain).toCome q <+: _
    rw [coming]
    rcases List.mem_append.mp listed with new | earlier
    · exact ⟨[], by rw [List.append_nil, (opened q new).1, fresh]⟩
    · exact remembers.ahead q earlier other

/-- Steps of the app, unless the user disconnects one of the sessions. -/
theorem goesOn_app {ids : List ConnectionId} {s t : System} {action : Notifier.Action}
    {reported : Bool} (kept : ∀ q, action = .disconnect q → q ∉ ids)
    (taken : s.step (.app action reported) = some t) :
    ∃ app, t = System.settle app s.engine reported ∧ GoesOn name cid ids s.app app := by
  cases action with
  | connect request =>
    obtain rfl := Option.some.inj taken
    refine ⟨_, rfl, goesOn_of_follows (fun q _ after found => ⟨after, found, .refl after, rfl⟩)
      (fun _ _ => id) ⟨[_], rfl, fun call listed q _ behalf => ?_⟩⟩
    obtain rfl := List.mem_singleton.mp listed
    cases behalf
  | completeConnect call reply =>
    cases reply with
    | some _ => cases taken
    | none =>
      obtain ⟨-, rfl⟩ := System.step_refused taken
      exact ⟨_, rfl, goesOn_of_same rfl (calmer_of_same rfl) rfl⟩
  | disconnect q =>
    obtain rfl := Option.some.inj taken
    exact ⟨_, rfl, goesOn_of_only (only_disconnect s.app) (kept q rfl)
      (quiet_disconnect s.app q).connectCalls⟩
  | cancelConnect q =>
    obtain rfl := Option.some.inj taken
    exact ⟨_, rfl, goesOn_cancelConnect s.app q⟩
  | retryNow q =>
    obtain rfl := Option.some.inj taken
    exact ⟨_, rfl, goesOn_retryNow s.app q⟩
  | setAutoReconnect q enabled =>
    obtain rfl := Option.some.inj taken
    exact ⟨_, rfl, goesOn_setAutoReconnect s.app q enabled⟩
  | loadReconnectPreference =>
    obtain rfl := Option.some.inj taken
    exact ⟨_, rfl, goesOn_loadReconnectPreference s.app⟩
  | timer q =>
    obtain ⟨rt, timer, found, armed, rfl⟩ := System.step_timer taken
    exact ⟨_, rfl, goesOn_timerFired s.app found armed⟩
  | network status =>
    obtain rfl := Option.some.inj taken
    exact ⟨_, rfl, goesOn_onNetworkChanged s.app status⟩
  | event q event env => cases taken

theorem remembers_step {a b : Aftermath} {action : System.Action}
    (remembers : Remembers name cid a) (trying : a.stillTrying action = true)
    (taken : a.step action = some b) : Remembers name cid b := by
  obtain ⟨t, moved, rfl⟩ := Option.map_eq_some_iff.mp taken
  have tidy := tidy_step remembers.tidy moved
  cases action with
  | app action reported =>
    have kept : ∀ q, action = .disconnect q → q ∉ a.sessions := by
      rintro q rfl
      simpa [Aftermath.stillTrying] using trying
    obtain ⟨app, rfl, goes⟩ := goesOn_app kept moved
    exact remembers.app goes tidy
  | accept call =>
    simp only [System.step, Option.ite_none_right_eq_some, Option.some.injEq] at moved
    obtain ⟨_, rfl⟩ := moved
    exact remembers.accept tidy
  | deliver env =>
    obtain ⟨q, event, rest, queue, rfl⟩ := System.step_deliver moved
    refine remembers.deliver queue (fun tried data success => ?_) tidy
    simp [Aftermath.stillTrying, queue, success, tried] at trying
  | engine action =>
    obtain ⟨engine, stepped, rfl⟩ := Option.map_eq_some_iff.mp moved
    have aged : Engine.Ages (fun _ => True) a.system.engine engine := Engine.ages_step stepped
    exact remembers.goesOn tidy (.refl _) aged.next fun q _ => Engine.toCome_step stepped q

end Attempts

section Outcome

/-- A step leaves a session at most what it had still to report. -/
theorem toCome_systemStep {s t : System} {action : System.Action} (tidy : Tidy s)
    (taken : s.step action = some t) (q : ConnectionId) :
    (t.engine.toCome q).Sublist (s.engine.toCome q) := by
  cases action with
  | app action reported =>
    have settled : ∃ app, t = System.settle app s.engine reported ∧ GoesOn "" 0 [] s.app app :=
      goesOn_app (fun _ _ => List.not_mem_nil) taken
    obtain ⟨app, rfl, -⟩ := settled
    exact (Engine.toCome_execute ..).sublist
  | accept call =>
    simp only [System.step, Option.ite_none_right_eq_some, Option.some.injEq] at taken
    obtain ⟨_, rfl⟩ := taken
    rw [← Engine.toCome_openSession s.engine call.chain q tidy.consistent.unused]
    exact (Engine.toCome_execute ..).sublist
  | deliver env =>
    obtain ⟨cid, event, rest, queue, rfl⟩ := System.step_deliver taken
    rw [Engine.toCome_leave queue q]
    exact ((Engine.toCome_execute ..).sublist).trans (List.sublist_append_right ..)
  | engine action =>
    obtain ⟨engine, stepped, rfl⟩ := Option.map_eq_some_iff.mp taken
    exact (Engine.toCome_step stepped q).sublist

/-- In every reachable state a session has at most its greeting and then its loss to report. -/
theorem toCome_of_run {history : List System.Action} {s : System}
    (run : Run System.step anyStep .start history s) (q : ConnectionId) :
    (s.engine.toCome q).Sublist [.up, .down] := by
  have invariant := run.invariant
    (fun s => Tidy s ∧ ∀ q, (s.engine.toCome q).Sublist [.up, .down])
    ⟨tidy_start, fun _ => List.Sublist.refl _⟩ fun t action u before _ taken =>
      ⟨tidy_step before.1 taken,
        fun q => (toCome_systemStep before.1 taken q).trans (before.2 q)⟩
  exact invariant.2 q

theorem nothing_after_down {rest : List Engine.Signal}
    (bound : (.down :: rest : List Engine.Signal).Sublist [.up, .down]) : rest = [] := by
  cases bound with
  | cons _ later => exact List.sublist_nil.mp (List.cons_sublist_cons.mp later)

/-- A session that is lost remembers the name that its roster gives for its channel. -/
theorem recalls_handleDisconnected {s : Notifier} {cid : ConnectionId} {env : Ambient}
    (record : (s.rt.find cid).isSome = true) (heard : (s.stateOf cid).connecting = false) :
    Recalls (s.currentChannelName cid) cid [cid] (s.handleDisconnected cid false env) := by
  obtain ⟨rt, found⟩ := Option.isSome_iff_exists.mp record
  simp only [handleDisconnected, heard, found, Bool.false_eq_true, if_false]
  refine (goesOn_maybeScheduleReconnect _ cid _ true env ⟨?_, ?_, ?_⟩).1
  · intro q listed after foundAfter
    obtain rfl := List.mem_singleton.mp listed
    change (s.modifyRt q _).rt.find q = some after at foundAfter
    rw [find_modifyRt, if_pos rfl, found] at foundAfter
    obtain rfl := Option.some.inj foundAfter
    exact ⟨fun _ _ => rfl, fun _ armed => by cases armed⟩
  · intro q listed other
    exact absurd (List.mem_singleton.mp listed) other
  · intro q listed
    obtain rfl := List.mem_singleton.mp listed
    simp [TsConnectionState.new]

theorem remembers_begin {history : List System.Action} {s d : System} {cid : ConnectionId}
    {env : Ambient} (run : Run System.step anyStep .start history s) (drops : Drops s cid)
    (taken : s.step (.deliver env) = some d) :
    Remembers (s.app.currentChannelName cid) cid (.begin d cid) := by
  have tidy := tidy_of_run run
  have later := tidy_step tidy taken
  obtain ⟨rest, queue⟩ := drops.pending
  simp only [System.step, queue, Option.some.injEq] at taken
  subst taken
  obtain ⟨voice, -, settled⟩ := tidy.heard cid drops.record
  have recalls : Recalls (s.app.currentChannelName cid) cid [cid]
      (s.app.handleDisconnected cid false env) :=
    recalls_handleDisconnected drops.record (settled drops.connected).2
  have handled : s.app.handleEvent cid (.disconnected false) env =
      s.app.handleDisconnected cid false env := by
    unfold handleEvent
    rw [if_neg]
    rintro ⟨-, absent⟩
    have record := drops.record
    simp [absent] at record
  have known : cid < s.engine.nextConnectionId := by
    have listed : (cid, TsEngineEvent.disconnected false) ∈ s.engine.events := by simp [queue]
    obtain ⟨session, found⟩ := Option.isSome_iff_exists.mp (tidy.consistent.events cid _ listed)
    exact (tidy.consistent.known cid session.chain (by simp [Engine.chainAt, found])).1
  have nothing : (s.engine.leave rest).toCome cid = [] := by
    have bound := toCome_of_run run cid
    rw [Engine.toCome_leave queue cid, if_pos rfl] at bound
    exact nothing_after_down bound
  refine ⟨later, List.mem_singleton_self _, fun q listed => ?_, fun call listed => ?_, ?_, ?_,
    fun q listed other => absurd (List.mem_singleton.mp listed) other⟩
  · obtain rfl := List.mem_singleton.mp listed
    have unopened := Engine.next_execute (s.engine.leave rest) false
      (s.app.handleEvent q (.disconnected false) env).native
    exact known.trans_eq unopened.symm
  · cases listed
  · rw [← handled] at recalls
    exact ⟨recalls.repeats, recalls.forgets, recalls.offline⟩
  · have shorter : ((System.settle (s.app.handleEvent cid (.disconnected false) env)
        (s.engine.leave rest) false).engine.toCome cid) <+: (s.engine.leave rest).toCome cid :=
      Engine.toCome_execute ..
    rw [nothing] at shorter
    exact List.prefix_nil.mp shorter

theorem native_restoreChannel {s : Notifier} {q : ConnectionId} (channels : List TsChannel)
    (forgets : ∀ rt, s.rt.find q = some rt → rt.channelToRestore = none) :
    (s.restoreChannelAfterReconnect q channels).native = s.native := by
  unfold restoreChannelAfterReconnect
  split
  · rfl
  next rt found =>
  simp only [forgets rt found]
  rfl

/-- Disconnecting forgets the channel. -/
theorem forgets_disconnect (s : Notifier) (q : ConnectionId) {rt : SessionRuntime}
    (found : (s.disconnect q).rt.find q = some rt) : rt.channelToRestore = none := by
  have written : (s.disconnect q).rt =
      ((s.cancelTimer q).modifyRt q fun rt => { rt with channelToRestore := none }).rt := by
    unfold disconnect
    dsimp only
    split <;> rfl
  rw [written, find_modifyRt, if_pos rfl] at found
  obtain ⟨before, -, rfl⟩ := Option.map_eq_some_iff.mp found
  rfl

theorem moves_disconnect (s : Notifier) (q r : ConnectionId) :
    (s.disconnect q).native.filterMap (moveOf r) = s.native.filterMap (moveOf r) := by
  unfold disconnect
  dsimp only
  split
  · rfl
  · simp [moveOf]

/-- A session that remembers no channel asks for no move when it is greeted. -/
theorem moves_handleConnected {s : Notifier} {q : ConnectionId} (data : ConnectedEvent)
    (idle : s.native = []) (forgets : ∀ rt, s.rt.find q = some rt → rt.channelToRestore = none) :
    (s.handleConnected q data).native.filterMap (moveOf q) = [] := by
  have hydrated : ∀ t : Notifier, t.rt = s.rt → t.native = [] →
      (∀ rt, (t.hydrateServerMessages q data).rt.find q = some rt → rt.channelToRestore = none) ∧
        (t.hydrateServerMessages q data).native.filterMap (moveOf q) = [] := by
    intro t rt native
    unfold hydrateServerMessages
    split
    · refine ⟨fun _ found => forgets_disconnect t q found, ?_⟩
      rw [moves_disconnect, native, List.filterMap_nil]
    · rw [rt, native]
      exact ⟨forgets, List.filterMap_nil⟩
  unfold handleConnected
  dsimp only
  obtain ⟨forgotten, still⟩ := hydrated (s.setSession q _) rfl idle
  rw [native_restoreChannel _ fun rt found => ?_, cancelTimer_native, still]
  rw [find_cancelTimer, if_pos rfl] at found
  obtain ⟨before, foundBefore, rfl⟩ := Option.map_eq_some_iff.mp found
  exact forgotten before foundBefore

section Server

variable {segments : String → List String} {tree : Abstract.ChannelTree} {channel : Nat}

theorem currentChannelName_eq_iff (s : Notifier) (cid : ConnectionId) {name : String}
    (named : name ≠ "") : s.currentChannelName cid = name ↔
      ∃ own shown, (s.stateOf cid).clients.find? (·.id == (s.stateOf cid).ownClientId) = some own ∧
        (s.stateOf cid).channels.find? (·.id == own.channelId) = some shown ∧
        shown.name = name := by
  unfold currentChannelName
  dsimp only
  cases (s.stateOf cid).clients.find? (·.id == (s.stateOf cid).ownClientId) with
  | none => simp [named.symm]
  | some own =>
    cases shows : (s.stateOf cid).channels.find? (·.id == own.channelId) with
    | none => simp [shows, named.symm]
    | some shown => simp [shows]

theorem requested_channelName (s : Notifier) (cid : ConnectionId) {request : ConnectRequest}
    (asked : request.channel = some (s.currentChannelName cid)) :
    requested segments tree (some request) = some channel ↔
      ShownFromTop segments tree channel (s.stateOf cid) := by
  simp only [requested, Option.bind_some, asked, Option.bind_eq_some_iff, Option.filter_eq_some_iff,
    Option.some.injEq, decide_eq_true_eq, Abstract.ChannelTree.resolve_eq_some_iff]
  constructor
  · rintro ⟨name, ⟨current, named⟩, path⟩
    obtain ⟨own, shown, foundOwn, foundShown, rfl⟩ := (currentChannelName_eq_iff s cid named).mp
      current
    exact ⟨own, shown, foundOwn, foundShown, named, path⟩
  · rintro ⟨own, shown, foundOwn, foundShown, named, path⟩
    have current := (currentChannelName_eq_iff s cid named).mpr
      ⟨own, shown, foundOwn, foundShown, rfl⟩
    exact ⟨shown.name, ⟨current, named⟩, path⟩

/-- Without a move, what `connect` asked for decides. -/
theorem restored_without_move (joined : Option Nat) :
    Restored tree channel joined [] ↔ (tree.Has channel → joined = some channel) := by
  constructor
  · intro restored present
    simpa using restored.asks present
  · intro joins
    refine ⟨fun present => ?_, fun present other listed => ?_, fun _ => rfl⟩
    · simp [joins present]
    · simpa [joins present, eq_comm] using listed

end Server

/-- However many attempts it takes, the channel is restored exactly if it is gone or the roster of
the lost session showed it under its path from the top. -/
theorem channel_restored_iff {segments : String → List String} {history : List System.Action}
    {s d : System} {cid : ConnectionId} {env later : Ambient}
    (run : Run System.step anyStep .start history s) (drops : Drops s cid)
    (lost : s.step (.deliver env) = some d) {attempts : List System.Action} {a : Aftermath}
    (trying : Run Aftermath.step (fun a action => a.stillTrying action = true) (.begin d cid)
      attempts a)
    {q : ConnectionId} {data : ConnectedEvent} {rest : List (ConnectionId × TsEngineEvent)}
    (success : a.system.engine.events = (q, .connected data) :: rest) (tried : q ∈ a.sessions)
    {rt : SessionRuntime} (found : a.system.app.rt.find q = some rt) (tree : Abstract.ChannelTree)
    (channel : Nat) :
    Restored tree channel (requested segments tree rt.lastRequest)
        ((a.system.app.handleEvent q (.connected data) later).native.filterMap (moveOf q)) ↔
      (tree.Has channel → ShownFromTop segments tree channel (s.app.stateOf cid)) := by
  have remembers : Remembers (s.app.currentChannelName cid) cid a :=
    trying.invariant _ (remembers_begin run drops lost)
      fun _ _ _ before still taken => remembers_step before still taken
  have other : q ≠ cid := by
    have coming : a.system.engine.toCome q = .up :: (a.system.engine.leave rest).toCome q := by
      rw [Engine.toCome_leave success q, if_pos rfl]
      rfl
    exact (remembers.greets tried coming).1
  have forgets := remembers.recalls.forgets q tried other rt found
  obtain ⟨request, made⟩ := Option.isSome_iff_exists.mp (remembers.tidy.requests q rt found)
  have asked : request.channel = some (s.app.currentChannelName cid) := by
    simpa [retryRequest, forgets] using (remembers.recalls.repeats q tried rt found).request
      request made
  have handled : a.system.app.handleEvent q (.connected data) later =
      a.system.app.handleConnected q data := by
    unfold handleEvent
    rw [if_neg]
    rintro ⟨-, absent⟩
    cases absent.symm.trans found
  have moves := moves_handleConnected data remembers.tidy.consistent.idle fun after listed => by
    obtain rfl := Option.some.inj (found.symm.trans listed)
    exact forgets
  rw [handled, moves, restored_without_move, made, requested_channelName s.app cid asked]

/-- If the roster was right, the channel must be at the top and its name no longer path. -/
theorem shownFromTop_iff {segments : String → List String} {tree : Abstract.ChannelTree}
    {st : TsConnectionState} {own : TsClient} {shown : TsChannel} {channel : Channel}
    (whole : ∀ name, name ∈ segments name → segments name = [name])
    (present : st.clients.find? (·.id == st.ownClientId) = some own)
    (inside : st.channels.find? (·.id == own.channelId) = some shown)
    (named : shown.name = channel.name) (some : channel.name ≠ "")
    (listed : channel ∈ tree.channels) :
    ShownFromTop segments tree channel.id st ↔
      channel.parent = none ∧ segments channel.name = [channel.name] := by
  rw [← Abstract.ChannelTree.pathTo_own_name_iff whole listed, ShownFromTop]
  simp [present, inside, named, some]

/-- A name read as a path from the top. -/
def slashes (name : String) : List String := (name.toList.splitOn '/').map String.ofList

/-- Two rooms of one name, one of them in the lobby. -/
def rooms : Abstract.ChannelTree where
  channels := [⟨1, "Lobby", none⟩, ⟨2, "Room", some 1⟩, ⟨3, "Room", none⟩]
  ids := by decide
  siblings := by decide

def inRoom (own room : Nat) : ConnectedEvent :=
  ⟨some own, "", 0, [⟨1, "Lobby"⟩, ⟨2, "Room"⟩, ⟨3, "Room"⟩], [⟨own, room⟩]⟩

def droppedHistory (room : Nat) : List System.Action :=
  [.app (.connect exampleRequest) false, .accept ⟨0, exampleRequest, .user, 0⟩,
    .engine (.handshakeDone 1), .engine (.publish 1 (inRoom 7 room)), .deliver quietEnv,
    .engine (.stash 1), .engine (.take 1), .engine (.startLoop 1), .engine (.drop 1)]

/-- The first attempt times out, the second one is greeted. -/
def secondAttempt : List System.Action :=
  let retry := { exampleRequest with channel := some "Room" }
  [.app (.timer 1) false, .accept ⟨1, retry, .timer 1 3000, 0⟩,
    .engine (.fail 2 "timeout" true), .deliver quietEnv,
    .app (.timer 2) false, .accept ⟨2, retry, .timer 2 3000, 0⟩,
    .engine (.handshakeDone 3), .engine (.publish 3 (inRoom 9 3))]

/-- Session 1 is lost in a room, and session 3 replaces it. -/
theorem secondAttempt_succeeds {room : Nat} (either : room ∈ [2, 3]) : ∃ s d a rt,
    Run System.step anyStep .start (droppedHistory room) s ∧ Drops s 1 ∧
    s.step (.deliver quietEnv) = some d ∧
    Run Aftermath.step (fun a action => a.stillTrying action = true) (.begin d 1)
      secondAttempt a ∧
    a.system.engine.events = [(3, .connected (inRoom 9 3))] ∧ 3 ∈ a.sessions ∧
    a.system.app.rt.find 3 = some rt ∧ requested slashes rooms rt.lastRequest = some 3 ∧
    (s.app.stateOf 1).clients.find? (·.id == (s.app.stateOf 1).ownClientId) = some ⟨7, room⟩ ∧
    (s.app.stateOf 1).channels.find? (·.id == room) = some ⟨room, "Room"⟩ := by
  have computed : ∀ room ∈ [2, 3],
      (exec System.step .start (droppedHistory room)).any (fun s =>
        ((s.engine.events == [(1, .disconnected false)] && (s.app.rt.find 1).isSome &&
          (s.app.stateOf 1).connected) &&
          ((s.app.stateOf 1).clients.find? (·.id == (s.app.stateOf 1).ownClientId) ==
              some ⟨7, room⟩ &&
            (s.app.stateOf 1).channels.find? (·.id == room) == some ⟨room, "Room"⟩)) &&
        (System.step s (.deliver quietEnv)).any fun d =>
          (exec (guarded Aftermath.stillTrying Aftermath.step) (.begin d 1) secondAttempt).any
            fun a => a.system.engine.events == [(3, .connected (inRoom 9 3))] &&
              a.sessions.contains 3 && (a.system.app.rt.find 3).any fun rt =>
                requested slashes rooms rt.lastRequest == some 3) = true := by
    decide +kernel
  obtain ⟨s, before, passed⟩ := reaches_of_exec anyStep (fun _ _ _ => trivial)
    (computed room either)
  simp only [Bool.and_eq_true, beq_iff_eq] at passed
  obtain ⟨⟨⟨⟨queue, record⟩, connected⟩, own, shown⟩, passed⟩ := passed
  obtain ⟨d, lost, passed⟩ := (Option.any_eq_true ..).mp passed
  obtain ⟨a, trying, passed⟩ := reaches_of_guarded Aftermath.stillTrying passed
  simp only [Bool.and_eq_true, beq_iff_eq, Option.any_eq_true] at passed
  obtain ⟨⟨success, tried⟩, rt, found, asked⟩ := passed
  exact ⟨s, d, a, rt, before, ⟨record, connected, [], queue⟩, lost, trying, success,
    by simpa using tried, found, asked, own, shown⟩

/-- The upper room is restored. -/
theorem channel_restored_iff_upper : ∃ (s : System) (a : Aftermath) (rt : SessionRuntime),
    Run System.step anyStep .start (droppedHistory 3) s ∧ a.system.app.rt.find 3 = some rt ∧
      Restored rooms 3 (requested slashes rooms rt.lastRequest)
        ((a.system.app.handleEvent 3 (.connected (inRoom 9 3)) quietEnv).native.filterMap
          (moveOf 3)) := by
  obtain ⟨s, d, a, rt, before, drops, lost, trying, success, tried, found, -, own, shown⟩ :=
    secondAttempt_succeeds (show 3 ∈ [2, 3] by decide)
  refine ⟨s, a, rt, before, found, ?_⟩
  refine (channel_restored_iff before drops lost trying success tried found rooms 3).mpr ?_
  intro _
  have top : rooms.PathTo none (slashes "Room") 3 :=
    Abstract.ChannelTree.resolve_eq_some_iff.mp (by decide +kernel)
  exact ⟨_, _, own, shown, by decide, top⟩

/-- Whoever was in the lower room is sent to the upper one. -/
theorem other_room_restored : ¬ ∀ (segments : String → List String)
    (history attempts : List System.Action) (s d : System) (a : Aftermath)
    (cid q : ConnectionId) (env later : Ambient) (data : ConnectedEvent)
    (rest : List (ConnectionId × TsEngineEvent)) (rt : SessionRuntime) (tree : Abstract.ChannelTree)
    (own : TsClient),
    Run System.step anyStep .start history s → Drops s cid → s.step (.deliver env) = some d →
    Run Aftermath.step (fun a action => a.stillTrying action = true) (.begin d cid) attempts a →
    a.system.engine.events = (q, .connected data) :: rest → q ∈ a.sessions →
    a.system.app.rt.find q = some rt →
    (s.app.stateOf cid).clients.find? (·.id == (s.app.stateOf cid).ownClientId) = some own →
    Restored tree own.channelId (requested segments tree rt.lastRequest)
      ((a.system.app.handleEvent q (.connected data) later).native.filterMap (moveOf q)) := by
  intro claimed
  obtain ⟨s, d, a, rt, before, drops, lost, trying, success, tried, found, asked, own, -⟩ :=
    secondAttempt_succeeds (show 2 ∈ [2, 3] by decide)
  have restored := claimed slashes _ _ s d a 1 3 quietEnv quietEnv _ [] rt rooms ⟨7, 2⟩ before
    drops lost trying success tried found own
  have same := restored.onlyFor ⟨⟨2, "Room", some 1⟩, by decide, rfl⟩ 3 (by simp [asked])
  exact absurd same (by decide)

end Outcome

end Nek0.Guarantees
