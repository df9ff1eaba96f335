import Nek0.Library.Run
import Nek0.Source.Nicknames
import Nek0.Source.NotifierFrames

/-!
# Errors in the state of a session

What the events of `_handleEvent` in `lib/models/ts_state.dart` do to the error texts of a session
between a failure and the next attempt. `copyWith` clears the four texts unless it is given new
ones. The fields of a session that no event here reads are left out; an event that only changes
such fields is an `update`. A `connected` event belongs to a new attempt. What the session table
has of a session follows the session: `Follows`.
-/

namespace Nek0.Source.FailureReasons

structure TsConnectionState (χ κ : Type*) where
  connected : Bool
  connecting : Bool
  phase : TsPhase
  error : Option String
  errorCode : Option String
  missingPermission : Option String
  connectErrorKind : Option String
  reconnectAttempt : Nat
  reconnectAt : Option Nat
  channels : List χ
  clients : List κ
  deriving DecidableEq

/-- A session with what the app keeps beside its state. -/
structure Session (χ κ : Type*) where
  state : TsConnectionState χ κ
  lastRequest : Option ConnectRequest
  autoReconnect : Bool
  lastFileRequestId : Option Int
  deriving DecidableEq

/-- The event that an update of other fields comes from. -/
inductive Update where
  | fileTransfer
  | fileTransferProgress
  | tokenUsed
  | banList
  | complainList
  | channelDescription
  | commandThrottled
  | networkStats
  | diag
  deriving DecidableEq, Repr

/-- An event with the part of its data that matters here. For a roster update that is what the
engine returns for the lists. -/
inductive TsEngineEvent (χ κ : Type*) where
  | update (field : Update)
  | fileList (requestId : Option Int)
  | fileInfo (ok : Option Bool)
  | clientUpdated
  | connectionPhase (phase : Option String)
  | connectFailed (kind message : Option String) (retryable : Option Bool)
  | disconnected (expected : Option Bool) (reason : Option String)
  | error (message : String)
  | commandError (code message missingPermission : Option String)
  | textMessage (m : Nicknames.TextMessage)
  | clientJoined (client : κ)
  | clientLeft (id : Int)
  | channelsUpdated (channels : List χ) (clients : List κ)
  deriving DecidableEq

/-- The time, the draw for a delay and the network. -/
structure Ambient where
  now : Nat
  random : Draw
  available : Bool

def connectErrorMessage (kind detail : String) : String :=
  match kind with
  | "dns" => "Server address could not be resolved"
  | "timeout" => "The server did not answer in time"
  | "network" => "Network error while contacting the server"
  | "password" => "Wrong server password"
  | "channel_password" => "Wrong channel password"
  | "banned" => "You are banned from this server"
  | "nickname_in_use" => "This nickname is already in use"
  | "identity_level" => "The server requires a higher identity security level"
  | "server_full" => "The server is full"
  | "server_identity_changed" => "The server changed its identity key; connection refused"
  | "server_refused" => "The server refused the connection"
  | "protocol" => "Unexpected server response"
  | "cancelled" => "Connection cancelled"
  | "connection_lost" => "Connection lost"
  | _ => detail

def formatCommandError (code message : String) (missingPermission : Option String) : String :=
  if Nicknames.contains code "InvalidPassword" then
    "The server or channel password was rejected"
  else if Nicknames.contains code "Insufficient" || missingPermission.isSome then
    match missingPermission with
    | none => "The server denied this operation"
    | some permission => "Missing TeamSpeak permission: " ++ permission
  else if Nicknames.contains code "Flood" then
    "The server rate limit was reached; retry later"
  else if Nicknames.contains code "ChannelNotFound" then
    "The selected channel no longer exists"
  else if message = "" then code
  else message

variable {χ κ : Type*}

def TsConnectionState.new : TsConnectionState χ κ where
  connected := false
  connecting := false
  phase := .idle
  error := none
  errorCode := none
  missingPermission := none
  connectErrorKind := none
  reconnectAttempt := 0
  reconnectAt := none
  channels := []
  clients := []

/-- `copyWith` of other fields than the texts. -/
def TsConnectionState.copyWith (st : TsConnectionState χ κ) : TsConnectionState χ κ :=
  { st with error := none, errorCode := none, missingPermission := none, connectErrorKind := none }

namespace Session

variable (idOf : κ → Int) (env : Ambient) (s : Session χ κ)

def setState (state : TsConnectionState χ κ) : Session χ κ := { s with state }

def maybeScheduleReconnect (kind : String) (retryable : Bool) : Session χ κ :=
  if s.lastRequest = none || !s.autoReconnect then s
  else
    let attempt := s.state.reconnectAttempt
    if !ReconnectPolicy.shouldRetry kind retryable attempt then
      s.setState { s.state.copyWith with reconnectAttempt := 0, reconnectAt := none }
    else if !env.available then
      s.setState { s.state.copyWith with
        phase := .reconnecting, reconnectAttempt := attempt + 1, reconnectAt := none }
    else
      s.setState { s.state.copyWith with
        phase := .reconnecting
        reconnectAttempt := attempt + 1
        reconnectAt := some (env.now + ReconnectPolicy.delayFor attempt env.random) }

def handleConnectFailed (kind message : Option String) (retryable : Option Bool) : Session χ κ :=
  let kind := kind.getD "unknown"
  let message := connectErrorMessage kind (message.getD kind)
  let s := s.setState { s.state.copyWith with
    connecting := false
    connected := false
    error := some message
    connectErrorKind := some kind
    phase := .failed }
  s.maybeScheduleReconnect env kind (retryable.getD false)

def handleDisconnected (expected : Option Bool) (reason : Option String) : Session χ κ :=
  -- While the session is connecting the event is a stale one.
  if s.state.connecting then s
  else
    let s := s.setState .new
    if expected.getD true then s
    else
      let s := s.setState { s.state.copyWith with
        error := some (reason.getD "")
        connectErrorKind := some "connection_lost"
        phase := .failed }
      s.maybeScheduleReconnect env "connection_lost" true

def handleError (message : String) : Session χ κ :=
  if s.state.connecting then
    s.setState { s.state.copyWith with connecting := false, error := some message, phase := .failed }
  else s.setState { s.state.copyWith with error := some message }

def handleCommandError (code message missingPermission : Option String) : Session χ κ :=
  let code := code.getD "Unknown"
  let message := message.getD code
  s.setState { s.state.copyWith with
    error := some (formatCommandError code message missingPermission)
    errorCode := some code
    missingPermission }

variable [DecidableEq χ] [DecidableEq κ]

def handleEvent : TsEngineEvent χ κ → Session χ κ
  | .update _ => s.setState s.state.copyWith
  | .fileList requestId =>
    let requestId := requestId.getD 0
    if requestId ≠ 0 ∧ some requestId ≠ s.lastFileRequestId then s
    else s.setState s.state.copyWith
  | .fileInfo ok => if !ok.getD false then s else s.setState s.state.copyWith
  | .clientUpdated => s
  | .connectionPhase phase =>
    if s.state.connected then s
    else s.setState { s.state.copyWith with phase := .fromNative (phase.getD "") }
  | .connectFailed kind message retryable => s.handleConnectFailed env kind message retryable
  | .disconnected expected reason => s.handleDisconnected env expected reason
  | .error message => s.handleError message
  | .commandError code message missingPermission =>
    s.handleCommandError code message missingPermission
  | .textMessage m =>
    if Nicknames.App.isIgnored m then s else s.setState s.state.copyWith
  | .clientJoined client =>
    s.setState { s.state.copyWith with clients := s.state.clients ++ [client] }
  | .clientLeft id =>
    s.setState { s.state.copyWith with clients := s.state.clients.filter (idOf · ≠ id) }
  | .channelsUpdated channels clients =>
    if channels = s.state.channels ∧ clients = s.state.clients then s
    else s.setState { s.state.copyWith with channels, clients }

/-- The events of a session, each with what the app finds when it handles it. -/
def step (s : Session χ κ) : Ambient × TsEngineEvent χ κ → Option (Session χ κ)
  | (env, event) => some (s.handleEvent idOf env event)

end Session

section Table

open Nek0.Library

/-- The fields that the session table has too. -/
structure Agree (st : TsConnectionState TsChannel TsClient) (record : Source.TsConnectionState) :
    Prop where
  connected : record.connected = st.connected
  connecting : record.connecting = st.connecting
  phase : record.phase = st.phase
  reconnectAttempt : record.reconnectAttempt = st.reconnectAttempt
  reconnectAt : record.reconnectAt = st.reconnectAt
  channels : record.channels = st.channels
  clients : record.clients = st.clients

/-- A session as the table has it. -/
structure Follows (cid : ConnectionId) (s : Session TsChannel TsClient) (n : Notifier) : Prop where
  rt : ∃ rt, n.rt.find cid = some rt ∧ rt.lastRequest = s.lastRequest ∧
    rt.autoReconnect = s.autoReconnect
  state : Agree s.state (n.stateOf cid)

/-- The event of the table. -/
def TsEngineEvent.atTable (idOf : TsClient → Int) (st : TsConnectionState TsChannel TsClient) :
    TsEngineEvent TsChannel TsClient → Source.TsEngineEvent
  | .update _ | .fileList _ | .fileInfo _ | .clientUpdated | .commandError .. | .textMessage _ =>
    .other
  | .connectionPhase phase => .connectionPhase (phase.getD "")
  | .connectFailed kind _ retryable => .connectFailed (kind.getD "unknown") (retryable.getD false)
  | .disconnected expected _ => .disconnected (expected.getD true)
  | .error _ => .error
  | .clientJoined client => .rosterUpdated st.channels (st.clients ++ [client])
  | .clientLeft id => .rosterUpdated st.channels (st.clients.filter (idOf · ≠ id))
  | .channelsUpdated channels clients => .rosterUpdated channels clients

variable {cid : ConnectionId} {s : Session TsChannel TsClient} {n : Notifier}

theorem Follows.setSession (follows : Follows cid s n) {st : TsConnectionState TsChannel TsClient}
    {record : Source.TsConnectionState} (agree : Agree st record) :
    Follows cid (s.setState st) (n.setSession cid record) where
  rt := follows.rt
  state := by
    rw [Notifier.stateOf_setSession_self]
    exact agree

theorem Follows.modifyRt (follows : Follows cid s n) (change : SessionRuntime → SessionRuntime)
    (request : ∀ rt, (change rt).lastRequest = rt.lastRequest)
    (auto : ∀ rt, (change rt).autoReconnect = rt.autoReconnect) :
    Follows cid s (n.modifyRt cid change) where
  rt := by
    obtain ⟨rt, found, same, same'⟩ := follows.rt
    refine ⟨change rt, ?_, (request rt).trans same, (auto rt).trans same'⟩
    rw [Notifier.find_modifyRt_self, found, Option.map_some]
  state := follows.state

/-- The texts are not shared. -/
theorem Agree.texts {st : TsConnectionState TsChannel TsClient} {record : Source.TsConnectionState}
    (agree : Agree st record) (error errorCode missingPermission connectErrorKind : Option String) :
    Agree { st with error, errorCode, missingPermission, connectErrorKind } record :=
  ⟨agree.connected, agree.connecting, agree.phase, agree.reconnectAttempt, agree.reconnectAt,
    agree.channels, agree.clients⟩

theorem Follows.armReconnect (follows : Follows cid s n)
    {st : TsConnectionState TsChannel TsClient} {chain : ChainId} {request : ConnectRequest}
    {delay now : Nat}
    (agree : Agree st { n.stateOf cid with
      phase := .reconnecting
      reconnectAttempt := (n.stateOf cid).reconnectAttempt + 1
      reconnectAt := some (now + delay) }) :
    Follows cid (s.setState st) (n.armReconnect cid chain request delay now) := by
  have armed := (follows.setSession agree).modifyRt
    (fun rt => { rt with reconnectTimer := some ⟨request, delay⟩ }) (fun _ => rfl) fun _ => rfl
  exact ⟨armed.rt, armed.state⟩

theorem Follows.maybeScheduleReconnect (follows : Follows cid s n) {env : Ambient}
    (online : n.network.available = env.available) (kind : String) (retryable : Bool) :
    Follows cid (s.maybeScheduleReconnect env kind retryable)
      (n.maybeScheduleReconnect cid kind retryable ⟨env.now, env.random⟩) := by
  obtain ⟨rt, found, request, auto⟩ := follows.rt
  obtain ⟨connected, connecting, phase, attempt, deadline, channels, clients⟩ := follows.state
  unfold Session.maybeScheduleReconnect Notifier.maybeScheduleReconnect
  cases last : s.lastRequest with
  | none =>
    simp only [found, request, last, decide_true, Bool.true_or, if_true]
    exact follows
  | some call =>
    simp only [found, request, last, auto, online, attempt, reduceCtorEq, decide_false,
      Bool.false_or]
    split
    · exact follows
    · split
      · exact follows.setSession ⟨connected, connecting, phase, rfl, rfl, channels, clients⟩
      · split
        · exact follows.setSession ⟨connected, connecting, rfl, rfl, rfl, channels, clients⟩
        · exact follows.armReconnect
            ⟨connected, connecting, rfl, by simp only [attempt], rfl, channels, clients⟩

/-- Handling an event keeps a session and the table in step. -/
theorem Follows.handleEvent {idOf : TsClient → Int} (follows : Follows cid s n) {env : Ambient}
    (online : n.network.available = env.available) (event : TsEngineEvent TsChannel TsClient) :
    Follows cid (s.handleEvent idOf env event)
      (n.handleEvent cid (event.atTable idOf s.state) ⟨env.now, env.random⟩) := by
  obtain ⟨rt, found, request, auto⟩ := follows.rt
  have agree := follows.state
  have kept : ¬ (cid ≠ 0 ∧ n.rt.find cid = none) := fun dropped => by simp [found] at dropped
  unfold Notifier.handleEvent
  rw [if_neg kept]
  have unchanged : Follows cid s (n.setSession cid (n.stateOf cid)) := follows.setSession agree
  cases event with
  | update field => exact follows.setSession (agree.texts ..)
  | fileList requestId =>
    unfold Session.handleEvent
    dsimp only
    split
    · exact unchanged
    · exact follows.setSession (agree.texts ..)
  | fileInfo ok =>
    unfold Session.handleEvent
    dsimp only
    split
    · exact unchanged
    · exact follows.setSession (agree.texts ..)
  | clientUpdated => exact unchanged
  | connectionPhase phase =>
    change Follows cid (if s.state.connected then _ else _) (n.handleConnectionPhase cid _)
    unfold Notifier.handleConnectionPhase
    dsimp only
    rw [agree.connected]
    split
    · exact follows
    · exact follows.setSession ⟨rfl, agree.connecting, rfl, agree.reconnectAttempt,
        agree.reconnectAt, agree.channels, agree.clients⟩
  | connectFailed kind message retryable =>
    refine Follows.maybeScheduleReconnect (follows.setSession ?_) online _ _
    exact ⟨rfl, rfl, rfl, agree.reconnectAttempt, agree.reconnectAt, agree.channels, agree.clients⟩
  | disconnected expected reason =>
    change Follows cid (s.handleDisconnected env expected reason)
      (n.handleDisconnected cid (expected.getD true) _)
    unfold Session.handleDisconnected Notifier.handleDisconnected
    rw [agree.connecting, found]
    split
    · exact follows
    · have noted := follows.modifyRt (fun rt =>
        { rt with channelToRestore := some (n.currentChannelName cid), reconnectTimer := none })
        (fun _ => rfl) fun _ => rfl
      have blank : Agree .new (.new cid) := ⟨rfl, rfl, rfl, rfl, rfl, rfl, rfl⟩
      have reset := noted.setSession blank
      dsimp only
      split
      · exact reset
      · refine Follows.maybeScheduleReconnect (reset.setSession ?_) online _ _
        rw [Notifier.stateOf_setSession_self]
        exact ⟨rfl, rfl, rfl, rfl, rfl, rfl, rfl⟩
  | error message =>
    change Follows cid (s.handleError message) (n.handleError cid)
    unfold Session.handleError Notifier.handleError
    dsimp only
    rw [agree.connecting]
    split
    · exact follows.setSession ⟨agree.connected, rfl, rfl, agree.reconnectAttempt,
        agree.reconnectAt, agree.channels, agree.clients⟩
    · exact follows.setSession (agree.texts ..)
  | commandError code message missingPermission => exact follows.setSession (agree.texts ..)
  | textMessage m =>
    unfold Session.handleEvent
    dsimp only
    split
    · exact unchanged
    · exact follows.setSession (agree.texts ..)
  | clientJoined client =>
    exact follows.setSession ⟨agree.connected, agree.connecting, agree.phase,
      agree.reconnectAttempt, agree.reconnectAt, rfl, rfl⟩
  | clientLeft id =>
    exact follows.setSession ⟨agree.connected, agree.connecting, agree.phase,
      agree.reconnectAttempt, agree.reconnectAt, rfl, rfl⟩
  | channelsUpdated channels clients =>
    unfold Session.handleEvent
    dsimp only
    split
    next same =>
      exact follows.setSession ⟨agree.connected, agree.connecting, agree.phase,
        agree.reconnectAttempt, agree.reconnectAt, same.1, same.2⟩
    · exact follows.setSession ⟨agree.connected, agree.connecting, agree.phase,
        agree.reconnectAttempt, agree.reconnectAt, rfl, rfl⟩

/-- The events of a session are a run of the table that ends with the same fields. -/
theorem Follows.run {idOf : TsClient → Int} {s' : Session TsChannel TsClient}
    {events : List (Ambient × TsEngineEvent TsChannel TsClient)} (follows : Follows cid s n)
    (run : Run (Session.step idOf) (fun _ found => n.network.available = found.1.available)
      s events s') :
    ∃ actions n', Run Notifier.step anyStep n actions n' ∧ Follows cid s' n' := by
  obtain ⟨actions, n', reached, after, -⟩ := run.simulate Notifier.step anyStep
    (fun s m => Follows cid s m ∧ m.network = n.network) ⟨follows, rfl⟩
    fun s item s' m both online taken => by
      obtain ⟨env, event⟩ := item
      obtain ⟨same, network⟩ := both
      obtain rfl := Option.some.inj taken
      refine ⟨[.event cid (event.atTable idOf s.state) ⟨env.now, env.random⟩], _,
        .single trivial rfl, same.handleEvent (network ▸ online) event, ?_⟩
      exact (Notifier.only_handleEvent ..).network.trans network
  exact ⟨actions, n', reached, after⟩

end Table

end Nek0.Source.FailureReasons
