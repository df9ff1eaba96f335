import Nek0.Source.NativeEngine

/-!
# App and native engine, task by task

The session table of the app over the engine whose tasks are followed step by step.
The app runs on one thread: it goes on only when the engine has finished its last
call. A call of `connect` returns to the app in one piece with its begin, since
nothing in the engine looks at the app meanwhile.
-/

namespace Nek0.Source

structure NativeSystem where
  app : Notifier
  engine : NativeEngine
  /-- How many events the app has polled. -/
  polled : Nat
  /-- The sessions that the user has cancelled or disconnected. -/
  stopped : ConnectionId → Bool

namespace NativeSystem

def start : NativeSystem := ⟨.build, .new, 0, fun _ => false⟩

inductive Action where
  /-- A step of the app that waits for nothing from the engine. -/
  | app (action : Notifier.Action)
  /-- A call of `connect` reaches the engine. -/
  | accept (call : ConnectCall)
  /-- The app polls the oldest event. -/
  | deliver (env : Notifier.Ambient)
  /-- The oldest call of the app begins. -/
  | callNative
  | task (cid : ConnectionId) (action : SessionTasks.TaskAction)

/-- The app is not inside a call. -/
def idle (s : NativeSystem) : Bool := s.app.native.isEmpty && s.engine.busy.isNone

/-- The session that the user stops. -/
def stopOf : Notifier.Action → Option ConnectionId
  | .disconnect cid | .cancelConnect cid => some cid
  | _ => none

/-- The engine answers `connect` and sends the events. -/
def awaitsEngine : Notifier.Action → Bool
  | .completeConnect _ (some _) | .event .. => true
  | _ => false

def noteStop (s : NativeSystem) (action : Notifier.Action) (cid : ConnectionId) : Bool :=
  s.stopped cid || (stopOf action = some cid && cid < s.engine.nextConnectionId)

def execute (e : NativeEngine) : NativeCall → Option NativeEngine
  | .disconnect cid => e.step (.disconnect cid)
  | .cancelConnect cid => e.step (.cancelConnect cid)
  | .moveToChannel _ _ => if e.busy = none then some e else none

def step (s : NativeSystem) : Action → Option NativeSystem
  | .app action =>
    if s.idle ∧ awaitsEngine action = false then
      (s.app.step action).map fun app => { s with app := app, stopped := s.noteStop action }
    else none
  | .accept call =>
    if s.idle ∧ call ∈ s.app.inFlight then
      (s.engine.step .connect).map fun engine =>
        { s with
          app := s.app.completeConnect call (some s.engine.nextConnectionId)
          engine := engine }
    else none
  | .deliver env =>
    if s.idle then
      (s.engine.events[s.polled]?).map fun (cid, event) =>
        { s with app := s.app.handleEvent cid event.seen env, polled := s.polled + 1 }
    else none
  | .callNative =>
    match s.app.native with
    | [] => none
    | call :: rest =>
      (execute s.engine call).map fun engine =>
        { s with app := { s.app with native := rest }, engine := engine }
  | .task cid action =>
    (s.engine.step (.task cid action)).map fun engine => { s with engine := engine }

end NativeSystem

end Nek0.Source
