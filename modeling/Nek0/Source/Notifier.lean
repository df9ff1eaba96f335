import Nek0.Library.LinkedMap
import Nek0.Source.ReconnectPolicy

/-!
# Session table of the app

The part of `MultiServerNotifier` in `lib/models/ts_state.dart` that decides when
`connect` is called: the session records, the runtime bookkeeping with its
timers, connectivity events and the engine events that change a connection. The
fields of a record that no decision reads (chat, audio, statistics, error texts)
are left out.

`connect` waits for storage before it reaches the engine, so a call is first in
flight and completes later. Calls, armed timers and the chain a session belongs to
are recorded as history: a chain is one connect request of the user with all its
automatic and manual retries.
-/

namespace Nek0.Source

open Nek0.Library

abbrev ConnectionId := Nat

/-- The ticket of the user's connect request that a retry goes back to. -/
abbrev ChainId := Nat

structure ConnectRequest where
  address : String
  nickname : String
  channel : Option String
  password : Option String
  channelPassword : Option String
  deriving DecidableEq, Repr

structure NetworkStatus where
  available : Bool
  transport : String
  networkId : String
  deriving DecidableEq, Repr

def NetworkStatus.unknown : NetworkStatus := ⟨true, "unknown", ""⟩

/-- A different usable network replaces the previous one. -/
def NetworkStatus.isHandoverFrom (status previous : NetworkStatus) : Bool :=
  status.available && previous.available && previous.networkId != "" &&
    status.networkId != "" && status.networkId != previous.networkId

structure TsChannel where
  id : Nat
  name : String
  deriving DecidableEq, Repr

structure TsClient where
  id : Nat
  channelId : Nat
  deriving DecidableEq, Repr

structure TsConnectionState where
  connectionId : ConnectionId
  connected : Bool
  connecting : Bool
  ownClientId : Nat
  channels : List TsChannel
  clients : List TsClient
  phase : TsPhase
  reconnectAttempt : Nat
  reconnectAt : Option Nat
  autoReconnectEnabled : Bool
  deriving DecidableEq, Repr

def TsConnectionState.new (cid : ConnectionId) : TsConnectionState where
  connectionId := cid
  connected := false
  connecting := false
  ownClientId := 0
  channels := []
  clients := []
  phase := .idle
  reconnectAttempt := 0
  reconnectAt := none
  autoReconnectEnabled := true

structure ReconnectTimer where
  request : ConnectRequest
  delay : Nat
  deriving DecidableEq, Repr

structure SessionRuntime where
  connectionId : ConnectionId
  address : String
  nickname : String
  lastRequest : Option ConnectRequest
  /-- The timer as long as it has neither fired nor been cancelled. -/
  reconnectTimer : Option ReconnectTimer
  channelToRestore : Option String
  autoReconnect : Bool
  chain : ChainId
  deriving DecidableEq, Repr

/-- Who called `connect`. -/
inductive Origin where
  | user
  | timer (cid : ConnectionId) (delay : Nat)
  | retry (cid : ConnectionId)
  deriving DecidableEq, Repr

/-- The session on whose behalf a call was made. -/
def Origin.session : Origin → Option ConnectionId
  | .user => none
  | .timer cid _ => some cid
  | .retry cid => some cid

structure ConnectCall where
  ticket : Nat
  request : ConnectRequest
  origin : Origin
  chain : ChainId
  deriving DecidableEq, Repr

/-- An automatic reconnect that was scheduled. -/
structure Scheduled where
  session : ConnectionId
  chain : ChainId
  delay : Nat
  deriving DecidableEq, Repr

inductive NativeCall where
  | disconnect (cid : ConnectionId)
  | cancelConnect (cid : ConnectionId)
  | moveToChannel (cid : ConnectionId) (channelId : Nat)
  deriving DecidableEq, Repr

/-- The fields of a `connected` event that matter here, with the roster its
handler reads from the engine. -/
structure ConnectedEvent where
  clientId : Option Nat
  hostMessage : String
  hostMessageMode : Nat
  channels : List TsChannel
  clients : List TsClient
  deriving DecidableEq, Repr

inductive TsEngineEvent where
  | connected (data : ConnectedEvent)
  | connectionPhase (phase : String)
  | connectFailed (kind : String) (retryable : Bool)
  | disconnected (expected : Bool)
  | error
  | rosterUpdated (channels : List TsChannel) (clients : List TsClient)
  /-- An event that changes only fields which are not part of this model. -/
  | other
  deriving DecidableEq, Repr

/-- The events with which the engine ends a session. -/
def TsEngineEvent.isTerminal : TsEngineEvent → Bool
  | .connectFailed .. | .disconnected _ => true
  | _ => false

structure Notifier where
  sessions : LinkedMap ConnectionId TsConnectionState
  order : List ConnectionId
  selectedId : Option ConnectionId
  rt : LinkedMap ConnectionId SessionRuntime
  network : NetworkStatus
  /-- The stored `auto_reconnect` preference. -/
  autoReconnectPref : Option Bool
  /-- Calls of `connect` that have not reached the engine yet. -/
  inFlight : List ConnectCall
  /-- Calls to the engine that it has not executed yet. -/
  native : List NativeCall
  /-- All calls of `connect` so far. -/
  connectCalls : List ConnectCall
  /-- All automatic reconnects scheduled so far. -/
  scheduled : List Scheduled

namespace Notifier

def build : Notifier where
  sessions := .empty
  order := []
  selectedId := none
  rt := .empty
  network := .unknown
  autoReconnectPref := none
  inFlight := []
  native := []
  connectCalls := []
  scheduled := []

def stateOf (s : Notifier) (cid : ConnectionId) : TsConnectionState :=
  (s.sessions.find cid).getD (.new cid)

def setSession (s : Notifier) (cid : ConnectionId) (next : TsConnectionState) : Notifier :=
  { s with
    sessions := s.sessions.insert cid next
    order := if cid ∈ s.order then s.order else s.order ++ [cid] }

def modifyRt (s : Notifier) (cid : ConnectionId) (change : SessionRuntime → SessionRuntime) :
    Notifier :=
  { s with rt := s.rt.modify cid change }

def cancelTimer (s : Notifier) (cid : ConnectionId) : Notifier :=
  s.modifyRt cid fun rt => { rt with reconnectTimer := none }

def callNative (s : Notifier) (call : NativeCall) : Notifier :=
  { s with native := s.native ++ [call] }

def currentChannelName (s : Notifier) (cid : ConnectionId) : String :=
  let st := s.stateOf cid
  match st.clients.find? (·.id == st.ownClientId) with
  | none => ""
  | some own => ((st.channels.find? (·.id == own.channelId)).map (·.name)).getD ""

/-- `connect` up to its first wait. A call of the user starts a chain. -/
def connect (s : Notifier) (request : ConnectRequest) (origin : Origin)
    (chain : Option ChainId) : Notifier :=
  let ticket := s.connectCalls.length
  let call : ConnectCall := ⟨ticket, request, origin, chain.getD ticket⟩
  { s with inFlight := s.inFlight ++ [call], connectCalls := s.connectCalls ++ [call] }

/-- `connect` from the call of the engine on. An error or no connection id ends
the call without a session. -/
def completeConnect (s : Notifier) (call : ConnectCall) (reply : Option ConnectionId) : Notifier :=
  let s := { s with inFlight := s.inFlight.erase call }
  match reply.filter (· ≠ 0) with
  | none => s
  | some cid =>
    let rt : SessionRuntime :=
      { connectionId := cid
        address := call.request.address
        nickname := call.request.nickname
        lastRequest := some call.request
        reconnectTimer := none
        channelToRestore := none
        autoReconnect := true
        chain := call.chain }
    let s := { s with rt := s.rt.insert cid rt }
    let s := s.setSession cid
      { s.stateOf cid with connecting := true, phase := .resolving, reconnectAt := none }
    { s with selectedId := some cid }

def disconnect (s : Notifier) (cid : ConnectionId) : Notifier :=
  let s := s.cancelTimer cid
  let s := s.modifyRt cid fun rt => { rt with channelToRestore := none }
  let s := s.setSession cid { s.stateOf cid with reconnectAttempt := 0, reconnectAt := none }
  let st := s.stateOf cid
  if !st.connected && !st.connecting then s
  else
    let s := s.callNative (.disconnect cid)
    s.setSession cid { s.stateOf cid with connecting := false }

def cancelConnect (s : Notifier) (cid : ConnectionId) : Notifier :=
  let s := s.callNative (.cancelConnect cid)
  let order := s.order.filter (· ≠ cid)
  { s with
    rt := s.rt.erase cid
    sessions := s.sessions.erase cid
    order := order
    selectedId := if order = [] then none else s.selectedId }

/-- The request a retry of the session repeats. -/
def retryRequest (rt : SessionRuntime) (request : ConnectRequest) : ConnectRequest :=
  { request with channel := rt.channelToRestore.or request.channel }

def retryNow (s : Notifier) (cid : ConnectionId) : Notifier :=
  match s.rt.find cid with
  | none => s
  | some rt =>
    match rt.lastRequest with
    | none => s
    | some request =>
      let s := s.cancelTimer cid
      let pending := (s.stateOf cid).reconnectAttempt
      let s := s.connect (retryRequest rt request) (.retry cid) (some rt.chain)
      s.setSession cid { s.stateOf cid with reconnectAttempt := pending }

def setAutoReconnect (s : Notifier) (cid : ConnectionId) (enabled : Bool) : Notifier :=
  match s.rt.find cid with
  | none => s
  | some _ =>
    let s := s.modifyRt cid fun rt => { rt with autoReconnect := enabled }
    let s := { s with autoReconnectPref := some enabled }
    let s := if enabled then s else s.cancelTimer cid
    let st := s.stateOf cid
    s.setSession cid
      { st with
        autoReconnectEnabled := enabled
        reconnectAttempt := if enabled then st.reconnectAttempt else 0
        reconnectAt := if enabled then st.reconnectAt else none }

def loadReconnectPreference (s : Notifier) : Notifier :=
  let enabled := s.autoReconnectPref.getD true
  s.sessions.keys.foldl (fun s cid =>
    match s.rt.find cid with
    | none => s
    | some _ =>
      let s := s.modifyRt cid fun rt => { rt with autoReconnect := enabled }
      s.setSession cid { s.stateOf cid with autoReconnectEnabled := enabled }) s

/-- What a step reads from its environment: the clock and the random draw. -/
structure Ambient where
  now : Nat
  draw : Draw

/-- Arms the timer of a session for its next automatic attempt. -/
def armReconnect (s : Notifier) (cid : ConnectionId) (chain : ChainId) (request : ConnectRequest)
    (delay now : Nat) : Notifier :=
  let st := s.stateOf cid
  let s := s.setSession cid
    { st with
      phase := .reconnecting
      reconnectAttempt := st.reconnectAttempt + 1
      reconnectAt := some (now + delay) }
  let s := s.modifyRt cid fun rt => { rt with reconnectTimer := some ⟨request, delay⟩ }
  { s with scheduled := s.scheduled ++ [⟨cid, chain, delay⟩] }

def maybeScheduleReconnect (s : Notifier) (cid : ConnectionId) (kind : String) (retryable : Bool)
    (env : Ambient) : Notifier :=
  match s.rt.find cid with
  | none => s
  | some rt =>
    match rt.lastRequest with
    | none => s
    | some request =>
      if !rt.autoReconnect then s
      else
        let st := s.stateOf cid
        let attempt := st.reconnectAttempt
        if !ReconnectPolicy.shouldRetry kind retryable attempt then
          s.setSession cid { st with reconnectAttempt := 0, reconnectAt := none }
        else if !s.network.available then
          s.setSession cid
            { st with
              phase := .reconnecting, reconnectAttempt := attempt + 1, reconnectAt := none }
        else
          s.armReconnect cid rt.chain request (ReconnectPolicy.delayFor attempt env.draw) env.now

/-- The callback of a reconnect timer. -/
def timerFired (s : Notifier) (cid : ConnectionId) (rt : SessionRuntime) (timer : ReconnectTimer) :
    Notifier :=
  let s := s.cancelTimer cid
  if !rt.autoReconnect then s
  else
    let pending := (s.stateOf cid).reconnectAttempt
    let s := s.connect (retryRequest rt timer.request) (.timer cid timer.delay) (some rt.chain)
    s.setSession cid { s.stateOf cid with reconnectAttempt := pending }

def restoreChannelAfterReconnect (s : Notifier) (cid : ConnectionId) (channels : List TsChannel) :
    Notifier :=
  match s.rt.find cid with
  | none => s
  | some rt =>
    let s := s.modifyRt cid fun rt => { rt with channelToRestore := none }
    match rt.channelToRestore with
    | none => s
    | some target =>
      if target = "" || s.currentChannelName cid = target then s
      else
        match channels.find? (·.name == target) with
        | none => s
        | some channel => s.callNative (.moveToChannel cid channel.id)

/-- Host message mode 3 asks the client to leave. -/
def hydrateServerMessages (s : Notifier) (cid : ConnectionId) (data : ConnectedEvent) : Notifier :=
  if data.hostMessage ≠ "" ∧ data.hostMessageMode = 3 then s.disconnect cid else s

def handleConnected (s : Notifier) (cid : ConnectionId) (data : ConnectedEvent) : Notifier :=
  let st := s.stateOf cid
  let s := s.setSession cid
    { st with
      connecting := false
      connected := true
      ownClientId := data.clientId.getD st.ownClientId
      channels := data.channels
      clients := data.clients
      phase := .connected
      reconnectAttempt := 0
      reconnectAt := none }
  let s := s.hydrateServerMessages cid data
  let s := s.cancelTimer cid
  s.restoreChannelAfterReconnect cid data.channels

def handleConnectFailed (s : Notifier) (cid : ConnectionId) (kind : String) (retryable : Bool)
    (env : Ambient) : Notifier :=
  let s := s.setSession cid
    { s.stateOf cid with connecting := false, connected := false, phase := .failed }
  s.maybeScheduleReconnect cid kind retryable env

def handleDisconnected (s : Notifier) (cid : ConnectionId) (expected : Bool) (env : Ambient) :
    Notifier :=
  -- While the session is connecting the event is a stale one.
  if (s.stateOf cid).connecting then s
  else
    match s.rt.find cid with
    | none => s
    | some _ =>
      let channel := s.currentChannelName cid
      let s := s.modifyRt cid fun rt =>
        { rt with channelToRestore := some channel, reconnectTimer := none }
      let s := s.setSession cid (.new cid)
      if expected then s
      else
        let s := s.setSession cid { s.stateOf cid with phase := .failed }
        s.maybeScheduleReconnect cid "connection_lost" true env

def handleError (s : Notifier) (cid : ConnectionId) : Notifier :=
  let st := s.stateOf cid
  if st.connecting then s.setSession cid { st with connecting := false, phase := .failed }
  else s.setSession cid st

def handleConnectionPhase (s : Notifier) (cid : ConnectionId) (phase : String) : Notifier :=
  let st := s.stateOf cid
  if st.connected then s else s.setSession cid { st with phase := .fromNative phase }

/-- An event of a session that was removed is dropped. -/
def handleEvent (s : Notifier) (cid : ConnectionId) (event : TsEngineEvent) (env : Ambient) :
    Notifier :=
  if cid ≠ 0 ∧ s.rt.find cid = none then s
  else
    match event with
    | .connected data => s.handleConnected cid data
    | .connectionPhase phase => s.handleConnectionPhase cid phase
    | .connectFailed kind retryable => s.handleConnectFailed cid kind retryable env
    | .disconnected expected => s.handleDisconnected cid expected env
    | .error => s.handleError cid
    | .rosterUpdated channels clients =>
      s.setSession cid { s.stateOf cid with channels := channels, clients := clients }
    | .other => s.setSession cid (s.stateOf cid)

def hasAnyConnected (s : Notifier) : Bool :=
  s.sessions.keys.any fun cid => (s.stateOf cid).connected

/-- Forces the engine off a session whose network path is gone. -/
def dropForHandover (s : Notifier) (cid : ConnectionId) : Notifier :=
  if (s.rt.find cid).isSome && (s.stateOf cid).connected then
    let channel := s.currentChannelName cid
    (s.modifyRt cid fun rt => { rt with channelToRestore := some channel }).callNative
      (.disconnect cid)
  else s

/-- Stops the countdown of a session while there is no network. -/
def stopCountdown (s : Notifier) (cid : ConnectionId) : Notifier :=
  if (s.rt.find cid).isSome && (s.stateOf cid).reconnectAt.isSome then
    let s := s.cancelTimer cid
    s.setSession cid { s.stateOf cid with reconnectAt := none }
  else s

/-- Retries a session that waits for a reconnect. -/
def retryWaiting (s : Notifier) (cid : ConnectionId) : Notifier :=
  if (s.stateOf cid).phase = .reconnecting then s.retryNow cid else s

def noteNetwork (s : Notifier) (status : NetworkStatus) : Notifier := { s with network := status }

def onNetworkChanged (s : Notifier) (status : NetworkStatus) : Notifier :=
  let previous := s.network
  let s := s.noteNetwork status
  if status.isHandoverFrom previous && s.hasAnyConnected then
    s.order.foldl dropForHandover s
  else if !status.available then s.rt.keys.foldl stopCountdown s
  else if !previous.available then s.rt.keys.foldl retryWaiting s
  else s

/-- Everything that can happen to the session table. -/
inductive Action where
  | connect (request : ConnectRequest)
  | completeConnect (call : ConnectCall) (reply : Option ConnectionId)
  | disconnect (cid : ConnectionId)
  | cancelConnect (cid : ConnectionId)
  | retryNow (cid : ConnectionId)
  | setAutoReconnect (cid : ConnectionId) (enabled : Bool)
  | loadReconnectPreference
  | timer (cid : ConnectionId)
  | network (status : NetworkStatus)
  | event (cid : ConnectionId) (event : TsEngineEvent) (env : Ambient)

/-- A call completes only while it is in flight, and a timer fires only while it
is armed. -/
def step (s : Notifier) : Action → Option Notifier
  | .connect request => some (s.connect request .user none)
  | .completeConnect call reply =>
    if call ∈ s.inFlight then some (s.completeConnect call reply) else none
  | .disconnect cid => some (s.disconnect cid)
  | .cancelConnect cid => some (s.cancelConnect cid)
  | .retryNow cid => some (s.retryNow cid)
  | .setAutoReconnect cid enabled => some (s.setAutoReconnect cid enabled)
  | .loadReconnectPreference => some s.loadReconnectPreference
  | .timer cid =>
    match s.rt.find cid with
    | none => none
    | some rt => rt.reconnectTimer.map (s.timerFired cid rt)
  | .network status => some (s.onNetworkChanged status)
  | .event cid event env => some (s.handleEvent cid event env)

end Notifier

end Nek0.Source
