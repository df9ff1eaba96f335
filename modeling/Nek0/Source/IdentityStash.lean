import Mathlib.Logic.Function.Basic
import Nek0.Source.Notifier

/-!
# The identity of the engine

`IDENTITY_STASH` of `native/src/lib.rs` with the calls of `native/src/api.rs` that
write it, read it or empty it: `ts_set_identity`, `ts_get_identity`,
`ts_clear_identity`, and `do_connect`, which takes the identity when it starts and puts
it back once the server has let it in. `tsclientlib` makes up an identity where it gets
none, and raises the level of an identity where the server asks for it.
-/

namespace Nek0.Source

/-- A key pair and the security level of its counter. -/
structure Identity where
  key : Nat
  level : Nat
  deriving DecidableEq, Repr

/-- A text of the stash, as `serde_json` reads it. -/
inductive IdentityJson where
  | identity (identity : Identity)
  | unreadable (text : String)
  deriving DecidableEq, Repr

def IdentityJson.read : IdentityJson → Option Identity
  | .identity found => some found
  | .unreadable _ => none

/-- How far the task of an attempt is. -/
inductive ConnectStage where
  /-- `ts_connect` has spawned it. -/
  | spawned
  /-- It connects with an identity of its own. -/
  | handshaking (identity : Identity)
  /-- `connected` is pushed. -/
  | announced (identity : Identity)
  deriving DecidableEq, Repr

def ConnectStage.identity : ConnectStage → Option Identity
  | .spawned => none
  | .handshaking identity | .announced identity => some identity

structure IdentityEngine where
  /-- `IDENTITY_STASH` -/
  stash : Option IdentityJson
  nextConnectionId : ConnectionId
  connectTasks : ConnectionId → Option ConnectStage
  /-- The `connected` events in the queue, each with the identity that its session has
  connected with. -/
  events : List (ConnectionId × Identity)

namespace IdentityEngine

def new : IdentityEngine where
  stash := none
  nextConnectionId := 1
  connectTasks := fun _ => none
  events := []

/-- `ts_set_identity`: a null pointer does nothing, and an empty text empties the stash. -/
def setIdentity (e : IdentityEngine) : Option IdentityJson → IdentityEngine
  | none => e
  | some json => { e with stash := if json = .unreadable "" then none else some json }

def getIdentity (e : IdentityEngine) : Option IdentityJson := e.stash

def clearIdentity (e : IdentityEngine) : IdentityEngine := { e with stash := none }

/-- `ts_connect` -/
def connect (e : IdentityEngine) : IdentityEngine × ConnectionId :=
  ({ e with
      nextConnectionId := e.nextConnectionId + 1
      connectTasks := Function.update e.connectTasks e.nextConnectionId (some .spawned) },
    e.nextConnectionId)

/-- A task that is over, whatever it was doing. -/
def endTask (e : IdentityEngine) (connId : ConnectionId) : IdentityEngine :=
  { e with connectTasks := Function.update e.connectTasks connId none }

/-- `ts_cancel_connect`. Once the handshake is done, the task does not wait any more, and
an abort comes too late. -/
def cancelConnect (e : IdentityEngine) (connId : ConnectionId) : IdentityEngine :=
  match e.connectTasks connId with
  | some .spawned | some (.handshaking _) => e.endTask connId
  | _ => e

/-- `do_connect` takes what is in the stash; `generated` is what `Identity::create` would
give. -/
def takeIdentity (e : IdentityEngine) (connId : ConnectionId) (generated : Identity) :
    Option IdentityEngine :=
  match e.connectTasks connId with
  | some .spawned =>
    let identity := (e.stash.bind IdentityJson.read).getD generated
    some { e with
      stash := none
      connectTasks := Function.update e.connectTasks connId (some (.handshaking identity)) }
  | _ => none

/-- The server asks for a level that the identity does not have; the library looks for a
counter that reaches it. -/
def raiseLevel (e : IdentityEngine) (connId : ConnectionId) (needed reached : Nat) :
    Option IdentityEngine :=
  match e.connectTasks connId with
  | some (.handshaking identity) =>
    if identity.level < needed ∧ needed ≤ 20 ∧ needed ≤ reached then
      let raised := { identity with level := reached }
      some { e with
        connectTasks := Function.update e.connectTasks connId (some (.handshaking raised)) }
    else none
  | _ => none

/-- The handshake fails. -/
def failConnect (e : IdentityEngine) (connId : ConnectionId) : Option IdentityEngine :=
  match e.connectTasks connId with
  | some (.handshaking _) => some (e.endTask connId)
  | _ => none

/-- The handshake is done: the session is told. -/
def announce (e : IdentityEngine) (connId : ConnectionId) : Option IdentityEngine :=
  match e.connectTasks connId with
  | some (.handshaking identity) =>
    some { e with
      connectTasks := Function.update e.connectTasks connId (some (.announced identity))
      events := e.events ++ [(connId, identity)] }
  | _ => none

/-- `do_connect` puts its identity back, and ends. -/
def putBack (e : IdentityEngine) (connId : ConnectionId) : Option IdentityEngine :=
  match e.connectTasks connId with
  | some (.announced identity) =>
    some { e.endTask connId with stash := some (.identity identity) }
  | _ => none

/-- What the app can call and what a task can do next. -/
inductive Action where
  | setIdentity (json : Option IdentityJson)
  | clearIdentity
  | connect
  | cancelConnect (connId : ConnectionId)
  | takeIdentity (connId : ConnectionId) (generated : Identity)
  | raiseLevel (connId : ConnectionId) (needed reached : Nat)
  | failConnect (connId : ConnectionId)
  | announce (connId : ConnectionId)
  | putBack (connId : ConnectionId)
  deriving DecidableEq, Repr

/-- Steps of `do_connect`; the others are calls of the app. -/
def Action.ofTask : Action → Bool
  | .takeIdentity .. | .raiseLevel .. | .failConnect _ | .announce _ | .putBack _ => true
  | _ => false

def step (e : IdentityEngine) : Action → Option IdentityEngine
  | .setIdentity json => some (e.setIdentity json)
  | .clearIdentity => some e.clearIdentity
  | .connect => some e.connect.1
  | .cancelConnect connId => some (e.cancelConnect connId)
  | .takeIdentity connId generated => e.takeIdentity connId generated
  | .raiseLevel connId needed reached => e.raiseLevel connId needed reached
  | .failConnect connId => e.failConnect connId
  | .announce connId => e.announce connId
  | .putBack connId => e.putBack connId

end IdentityEngine

end Nek0.Source
