import Nek0.Source.Notifier

/-!
# App and engine

The session table of the app together with the engine sessions it opens. Here an
engine session is the stage its connect task and event loop have reached, as far as
`ts_disconnect` and `ts_cancel_connect` tell the stages apart, and the events it
has pushed wait in one queue until the app polls them.
-/

namespace Nek0.Source

/-- How far `do_connect` and `event_loop` have got. -/
inductive Stage where
  /-- The connect task waits for the handshake: an abort takes effect. -/
  | handshaking
  /-- The handshake is over and the task runs to its end. -/
  | finishing
  /-- `connected` was pushed, the connection is not in its stash yet. -/
  | published
  | stashed
  /-- The event loop took the connection and is not marked alive yet. -/
  | taken
  | looping (disconnectRequested : Bool)
  | ended
  deriving DecidableEq, Repr

structure EngineSession where
  stage : Stage
  /-- The chain of the call that opened the session. -/
  chain : ChainId
  deriving DecidableEq, Repr

structure Engine where
  nextConnectionId : ConnectionId
  sessions : ConnectionId → Option EngineSession
  events : List (ConnectionId × TsEngineEvent)

/-- Steps of the engine on its own. -/
inductive EngineAction where
  | handshakeDone (cid : ConnectionId)
  | fail (cid : ConnectionId) (kind : String) (retryable : Bool)
  | publish (cid : ConnectionId) (data : ConnectedEvent)
  | stash (cid : ConnectionId)
  | take (cid : ConnectionId)
  | startLoop (cid : ConnectionId)
  /-- The event loop ends and reports whether a disconnect was requested. -/
  | drop (cid : ConnectionId)
  | panics (cid : ConnectionId)
  | note (cid : ConnectionId) (event : TsEngineEvent)

namespace Engine

def new : Engine := ⟨1, fun _ => none, []⟩

def setStage (e : Engine) (cid : ConnectionId) (session : EngineSession) (stage : Stage) : Engine :=
  { e with sessions := Function.update e.sessions cid (some { session with stage := stage }) }

def push (e : Engine) (cid : ConnectionId) (event : TsEngineEvent) : Engine :=
  { e with events := e.events ++ [(cid, event)] }

/-- The queue after its oldest event was polled. -/
def leave (e : Engine) (rest : List (ConnectionId × TsEngineEvent)) : Engine :=
  { e with events := rest }

/-- `ts_connect` gives out the next id and starts the connect task. -/
def openSession (e : Engine) (chain : ChainId) : Engine :=
  { e with
    nextConnectionId := e.nextConnectionId + 1
    sessions := Function.update e.sessions e.nextConnectionId (some ⟨.handshaking, chain⟩) }

/-- `ts_disconnect` reaches the event loop once it is alive, or takes the
connection out of its stash. Before and between these it has no effect. -/
def disconnect (e : Engine) (cid : ConnectionId) : Engine :=
  match e.sessions cid with
  | none => e
  | some session =>
    match session.stage with
    | .looping _ => e.setStage cid session (.looping true)
    | .stashed => e.setStage cid session .ended
    | _ => e

/-- `ts_cancel_connect` aborts the connect task, which takes effect only while the
task waits. It reports a failure as long as the session is marked connecting or
its task handle is still stored, which `reported` says. -/
def cancelConnect (e : Engine) (cid : ConnectionId) (reported : Bool) : Engine :=
  let cancelled := TsEngineEvent.connectFailed "cancelled" false
  match e.sessions cid with
  | none => e
  | some session =>
    match session.stage with
    | .handshaking => (e.setStage cid session .ended).push cid cancelled
    | .finishing => e.push cid cancelled
    | _ => if reported then e.push cid cancelled else e

def execute (reported : Bool) (e : Engine) : NativeCall → Engine
  | .disconnect cid => e.disconnect cid
  | .cancelConnect cid => e.cancelConnect cid reported
  | .moveToChannel _ _ => e

/-- Whether a session that has reached a stage may push the event unasked. -/
def mayNote (stage : Stage) : TsEngineEvent → Bool
  | .connectionPhase _ | .error | .rosterUpdated .. => stage != .ended
  | .other => true
  | _ => false

def step (e : Engine) : EngineAction → Option Engine
  | .handshakeDone cid =>
    (e.sessions cid).bind fun session =>
      if session.stage = .handshaking then some (e.setStage cid session .finishing) else none
  | .fail cid kind retryable =>
    (e.sessions cid).bind fun session =>
      if session.stage = .handshaking ∨ session.stage = .finishing then
        some ((e.setStage cid session .ended).push cid (.connectFailed kind retryable))
      else none
  | .publish cid data =>
    (e.sessions cid).bind fun session =>
      if session.stage = .finishing then
        some ((e.setStage cid session .published).push cid (.connected data))
      else none
  | .stash cid =>
    (e.sessions cid).bind fun session =>
      if session.stage = .published then some (e.setStage cid session .stashed) else none
  | .take cid =>
    (e.sessions cid).bind fun session =>
      if session.stage = .stashed then some (e.setStage cid session .taken) else none
  | .startLoop cid =>
    (e.sessions cid).bind fun session =>
      if session.stage = .taken then some (e.setStage cid session (.looping false)) else none
  | .drop cid =>
    (e.sessions cid).bind fun session =>
      match session.stage with
      | .looping requested =>
        some ((e.setStage cid session .ended).push cid (.disconnected requested))
      | _ => none
  | .panics cid =>
    (e.sessions cid).bind fun session =>
      match session.stage with
      | .looping _ => some (e.setStage cid session .ended)
      | _ => none
  | .note cid event =>
    (e.sessions cid).bind fun session =>
      if mayNote session.stage event then some (e.push cid event) else none

end Engine

structure System where
  app : Notifier
  engine : Engine

namespace System

def start : System := ⟨.build, .new⟩

inductive Action where
  /-- A step of the app that waits for nothing from the engine. -/
  | app (action : Notifier.Action) (reported : Bool)
  /-- A call of `connect` reaches the engine. -/
  | accept (call : ConnectCall)
  /-- The app polls the oldest event. -/
  | deliver (env : Notifier.Ambient)
  | engine (action : EngineAction)

/-- The engine executes what the app has called, before anything else happens. -/
def settle (app : Notifier) (engine : Engine) (reported : Bool) : System :=
  ⟨{ app with native := [] }, app.native.foldl (Engine.execute reported) engine⟩

def step (s : System) : Action → Option System
  | .app (.completeConnect _ (some _)) _ => none
  | .app (.event ..) _ => none
  | .app action reported => (s.app.step action).map fun app => settle app s.engine reported
  | .accept call =>
    if call ∈ s.app.inFlight then
      some (settle (s.app.completeConnect call (some s.engine.nextConnectionId))
        (s.engine.openSession call.chain) false)
    else none
  | .deliver env =>
    match s.engine.events with
    | [] => none
    | (cid, event) :: rest =>
      some (settle (s.app.handleEvent cid event env) (s.engine.leave rest) false)
  | .engine action => (s.engine.step action).map fun engine => { s with engine := engine }

end System

end Nek0.Source
