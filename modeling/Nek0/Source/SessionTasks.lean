import Nek0.Source.Notifier

/-!
# Tasks of one engine session

`ts_connect` in `native/src/api.rs` spawns a connect task, that task spawns the event
loop, the loop spawns file transfers, and all the while the app may call
`ts_cancel_connect` and `ts_disconnect`. A step here lies between two points where
another of these can come in: a lock of the session, a wait or a push. The fields of
`Session` that decide nothing about its end are left out.
-/

namespace Nek0.Source

/-- The events of a session, as far as its lifecycle tells them apart. -/
inductive PushedEvent where
  | phase (name : String)
  | diag
  | connected (data : ConnectedEvent)
  | roster (channels : List TsChannel) (clients : List TsClient)
  | chat
  | transfer
  | error
  | other
  | connectFailed (kind : String) (retryable : Bool)
  | disconnected (expected : Bool)
  deriving DecidableEq, Repr

namespace PushedEvent

/-- The event as the session table of the app reads it. -/
def seen : PushedEvent → TsEngineEvent
  | .phase name => .connectionPhase name
  | .connected data => .connected data
  | .roster channels clients => .rosterUpdated channels clients
  | .error => .error
  | .connectFailed kind retryable => .connectFailed kind retryable
  | .disconnected expected => .disconnected expected
  | .diag | .chat | .transfer | .other => .other

def isTerminal : PushedEvent → Bool
  | .connectFailed .. | .disconnected _ => true
  | _ => false

/-- Events that only a live session may send. -/
def isLive : PushedEvent → Bool
  | .connected _ | .roster .. | .chat | .transfer => true
  | _ => false

/-- What `do_connect` pushes before the handshake is decided. -/
def ofHandshake : PushedEvent → Bool
  | .phase _ | .diag => true
  | _ => false

/-- What the event loop pushes while it runs. -/
def ofLoop : PushedEvent → Bool
  | .diag | .roster .. | .chat | .transfer | .error | .other => true
  | _ => false

theorem not_terminal_of_running {event : PushedEvent}
    (unasked : event.ofHandshake = true ∨ event.ofLoop = true) : event.isTerminal = false := by
  cases event <;> simp_all [ofHandshake, ofLoop, isTerminal]

end PushedEvent

/-- The entry of `SESSIONS`. -/
structure SessionCell where
  connecting : Bool
  connected : Bool
  disconnectRequested : Bool
  /-- The handle of the connect task is stored. -/
  connectTask : Bool
  commandTx : Bool
  /-- The connection waits in its stash. -/
  connection : Bool
  eventLoopAlive : Bool
  deriving DecidableEq, Repr

def SessionCell.new : SessionCell where
  connecting := true
  connected := false
  disconnectRequested := false
  connectTask := false
  commandTx := false
  connection := false
  eventLoopAlive := false

/-- Where the connect task stands. After its last wait it runs to its end, so an
abort reaches it in `waiting` only. -/
inductive ConnectTask where
  | waiting
  /-- The last poll has begun and brings the server book. -/
  | handshaken (data : ConnectedEvent)
  /-- `command_tx` is stored. -/
  | wired (data : ConnectedEvent)
  /-- The session is marked connected. -/
  | marked (data : ConnectedEvent)
  | published
  | stashed
  /-- The last poll has begun and ends in a failure. -/
  | failed (kind : String) (retryable : Bool)
  /-- The session is no longer marked connecting. -/
  | unmarked (kind : String) (retryable : Bool)
  | leaving
  | ended
  deriving DecidableEq, Repr

inductive LoopTask where
  | unspawned
  | spawned
  /-- The loop took the connection and is not marked alive yet. -/
  | taken
  | running
  /-- The loop has ended and `finalize_disconnect` is next. -/
  | leaving (expected : Bool)
  /-- The session is no longer marked connected. -/
  | unmarked (expected : Bool)
  | announced
  | detached
  /-- `event_loop` has returned or panicked. -/
  | returned
  | reported
  | ended
  deriving DecidableEq, Repr

/-- What a call from the app does next. -/
inductive NativePoint where
  /-- `ts_connect` has spawned the task. -/
  | storeHandle
  | takeHandle
  | clearConnecting (handle : Bool)
  | abort (handle wasConnecting : Bool)
  | reportCancelled
  | readAlive
  | requestDisconnect
  | sendDisconnect
  | takeConnection
  | clearConnected
  | removeSession
  deriving DecidableEq, Repr

structure SessionTasks where
  cell : Option SessionCell
  task : ConnectTask
  loop : LoopTask
  /-- A `Disconnect` waits in the command channel. -/
  disconnectSent : Bool
  /-- File transfers whose task has not ended. -/
  transfers : Nat
  /-- The call from the app that is under way. -/
  call : Option NativePoint
  deriving DecidableEq, Repr

namespace SessionTasks

/-- An id that `ts_connect` has not given out. -/
def unopened : SessionTasks where
  cell := none
  task := .ended
  loop := .unspawned
  disconnectSent := false
  transfers := 0
  call := none

/-- `ts_connect` has inserted the session and spawned its task. -/
def opened : SessionTasks where
  cell := some .new
  task := .waiting
  loop := .unspawned
  disconnectSent := false
  transfers := 0
  call := some .storeHandle

def modifyCell (s : SessionTasks) (change : SessionCell → SessionCell) : SessionTasks :=
  { s with cell := s.cell.map change }

/-- A step and the events it pushes. -/
abbrev Outcome := SessionTasks × List PushedEvent

/-- The next step of the connect task that does not wait. -/
def connectStep (s : SessionTasks) : Option Outcome :=
  match s.task with
  | .waiting | .ended => none
  | .handshaken data =>
    match s.cell with
    | none => some ({ s with task := .ended }, [])
    | some cell =>
      some ({ s with cell := some { cell with commandTx := true }, task := .wired data }, [])
  | .wired data =>
    match s.cell with
    | none => some ({ s with task := .ended }, [])
    | some cell =>
      let cell := { cell with connecting := false, connected := true }
      some ({ s with cell := some cell, task := .marked data }, [])
  | .marked data => some ({ s with task := .published }, [.connected data])
  | .published =>
    some ({ s.modifyCell ({ · with connection := true }) with task := .stashed }, [])
  | .stashed => some ({ s with loop := .spawned, task := .leaving }, [])
  | .failed kind retryable =>
    some ({ s.modifyCell ({ · with connecting := false }) with task := .unmarked kind retryable },
      [])
  | .unmarked kind retryable => some ({ s with task := .leaving }, [.connectFailed kind retryable])
  | .leaving => some ({ s.modifyCell ({ · with connectTask := false }) with task := .ended }, [])

/-- The next step of the loop's task outside of `event_loop` proper. -/
def loopStep (s : SessionTasks) : Option Outcome :=
  match s.loop with
  | .unspawned | .running | .ended => none
  | .spawned =>
    if s.cell.any (·.connection) then
      some ({ s.modifyCell ({ · with connection := false }) with loop := .taken }, [])
    else
      -- The session lost its connection.
      some ({ s with loop := .ended }, [])
  | .taken => some ({ s.modifyCell ({ · with eventLoopAlive := true }) with loop := .running }, [])
  | .leaving expected =>
    some ({ s.modifyCell ({ · with connected := false, disconnectRequested := false }) with
      loop := .unmarked expected }, [])
  | .unmarked expected => some ({ s with loop := .announced }, [.disconnected expected])
  | .announced =>
    some ({ s.modifyCell ({ · with commandTx := false, eventLoopAlive := false }) with
      loop := .detached }, [])
  | .detached => some ({ s with cell := none, loop := .returned }, [])
  | .returned => some ({ s with loop := .reported }, [.diag])
  | .reported => some ({ s.modifyCell ({ · with eventLoopAlive := false }) with loop := .ended }, [])

/-- The running loop was asked to disconnect, by the flag or by the command. -/
def disconnectPending (s : SessionTasks) : Bool :=
  s.cell.any (·.disconnectRequested) || s.disconnectSent

/-- The next step of a call from the app. -/
def callStep (s : SessionTasks) : Option Outcome :=
  match s.call with
  | none => none
  | some .storeHandle =>
    some ({ s.modifyCell ({ · with connectTask := true }) with call := none }, [])
  | some .takeHandle =>
    let handle := s.cell.any (·.connectTask)
    some ({ s.modifyCell ({ · with connectTask := false }) with
      call := some (.clearConnecting handle) }, [])
  | some (.clearConnecting handle) =>
    let wasConnecting := s.cell.any (·.connecting)
    some ({ s.modifyCell ({ · with connecting := false }) with
      call := some (.abort handle wasConnecting) }, [])
  | some (.abort handle wasConnecting) =>
    some ({ s with
      task := if handle && s.task = .waiting then .ended else s.task
      call := if handle || wasConnecting then some .reportCancelled else none }, [])
  | some .reportCancelled => some ({ s with call := none }, [.connectFailed "cancelled" false])
  | some .readAlive =>
    let alive := s.cell.any (·.eventLoopAlive)
    some ({ s with call := some (if alive then .requestDisconnect else .takeConnection) }, [.diag])
  | some .requestDisconnect =>
    some ({ s.modifyCell ({ · with disconnectRequested := true }) with
      call := some .sendDisconnect }, [])
  | some .sendDisconnect =>
    some ({ s.modifyCell ({ · with commandTx := false }) with
      disconnectSent := s.disconnectSent || s.cell.any (·.commandTx)
      call := none }, [])
  | some .takeConnection =>
    if s.cell.any (·.connection) then
      some ({ s.modifyCell ({ · with connection := false }) with call := some .clearConnected }, [])
    else some ({ s with call := none }, [])
  | some .clearConnected =>
    some ({ s.modifyCell ({ · with connected := false, disconnectRequested := false }) with
      call := some .removeSession }, [])
  | some .removeSession => some ({ s with cell := none, call := none }, [])

inductive TaskAction where
  /-- The connect task pushes before the handshake is decided. -/
  | handshakePushes (event : PushedEvent)
  | handshakeDone (data : ConnectedEvent)
  | fail (kind : String) (retryable : Bool)
  | connect
  | loop
  | loopPushes (event : PushedEvent)
  | startTransfer
  /-- The loop sees the flag or receives the command. -/
  | obey
  /-- The server closed the stream, or it failed. -/
  | streamEnds
  /-- An audio command finds no session. -/
  | sessionMissing
  | panics
  | transferPushes
  | transferEnds
  | call

/-- Whether the connect task is still in its handshake. -/
def inHandshake (s : SessionTasks) : Bool :=
  match s.task with
  | .waiting | .handshaken _ | .failed .. => true
  | _ => false

def step (s : SessionTasks) : TaskAction → Option Outcome
  | .handshakePushes event => if s.inHandshake && event.ofHandshake then some (s, [event]) else none
  | .handshakeDone data =>
    if s.task = .waiting then some ({ s with task := .handshaken data }, []) else none
  | .fail kind retryable =>
    if s.task = .waiting then some ({ s with task := .failed kind retryable }, []) else none
  | .connect => s.connectStep
  | .loop => s.loopStep
  | .loopPushes event => if s.loop = .running ∧ event.ofLoop then some (s, [event]) else none
  | .startTransfer =>
    if s.loop = .running then some ({ s with transfers := s.transfers + 1 }, []) else none
  | .obey =>
    if s.loop = .running ∧ s.disconnectPending then some ({ s with loop := .leaving true }, [])
    else none
  | .streamEnds =>
    if s.loop = .running then
      some ({ s with loop := .leaving (s.cell.any (·.disconnectRequested)) }, [])
    else none
  | .sessionMissing =>
    if s.loop = .running ∧ s.cell = none then some ({ s with loop := .returned }, []) else none
  | .panics => if s.loop = .running then some ({ s with loop := .returned }, []) else none
  | .transferPushes => if s.transfers ≠ 0 then some (s, [.transfer]) else none
  | .transferEnds =>
    if s.transfers ≠ 0 then some ({ s with transfers := s.transfers - 1 }, [.transfer]) else none
  | .call => s.callStep

/-- Nothing of the session goes on by itself: its tasks have ended, or its loop
waits for the server. -/
def atRest (s : SessionTasks) : Bool :=
  s.call = none && s.task = .ended &&
    (s.loop = .unspawned || s.loop = .ended || (s.loop = .running && !s.disconnectPending))

end SessionTasks

end Nek0.Source
