import Nek0.Source.IdentityStash

/-!
# The identity of the app

How `MultiServerNotifier.connect` of `lib/models/ts_state.dart` gets the identity out of
the secure storage, hands it to the engine and starts a session, how `_saveIdentity`
writes back what the engine has, and how `_handleEvent` takes the `connected` event.
Writes of the storage finish in the order in which they were sent, and none fails. The
tasks of the engine go on at any time; the app itself is one thread, and does nothing
else between `ts_connect` and `ts_get_identity`.
-/

namespace Nek0.Source

/-- Where a call of `connect` waits. -/
inductive ConnectWait where
  /-- For `SecureStorage.get`. -/
  | reading
  /-- For `SecureStorage.put` with the identity of an older version. -/
  | migrating
  /-- For the preferences, with that identity in the storage. -/
  | migrated (json : IdentityJson)
  /-- For the audio and history preferences. -/
  | preparing
  deriving DecidableEq, Repr

/-- A `SecureStorage.put` on its way; `call` is the migration that waits for it. -/
structure StorageWrite where
  json : IdentityJson
  call : Option Nat
  deriving DecidableEq, Repr

structure IdentityApp where
  engine : IdentityEngine
  /-- The secure storage under `client_identity`. -/
  storage : Option IdentityJson
  /-- The preference of that name, which older versions have written. -/
  legacy : Option IdentityJson
  writes : List StorageWrite
  calls : Nat → Option ConnectWait
  nextCall : Nat
  /-- A call has started a session, and `_saveIdentity` comes next. -/
  saving : Bool
  /-- `_rt` -/
  sessions : List ConnectionId
  /-- The identities of the sessions whose `connected` event was handled. -/
  handled : List Identity
  /-- The identities that the app has read, from whatever source. -/
  seen : List Identity

namespace IdentityApp

def build (storage legacy : Option IdentityJson) : IdentityApp where
  engine := .new
  storage
  legacy
  writes := []
  calls := fun _ => none
  nextCall := 0
  saving := false
  sessions := []
  handled := []
  seen := []

def setCall (a : IdentityApp) (call : Nat) (stage : Option ConnectWait) : IdentityApp :=
  { a with calls := Function.update a.calls call stage }

/-- `SecureStorage.put` -/
def put (a : IdentityApp) (write : StorageWrite) : IdentityApp :=
  { a with
    writes := a.writes ++ [write]
    seen := a.seen ++ write.json.read.toList }

/-- `connect` up to its first wait. -/
def startConnect (a : IdentityApp) : IdentityApp :=
  { a.setCall a.nextCall (some .reading) with nextCall := a.nextCall + 1 }

/-- `connect` pushes the identity to the engine and loads the preferences. -/
def pushIdentity (a : IdentityApp) (call : Nat) (json : IdentityJson) : IdentityApp :=
  { a.setCall call (some .preparing) with
    engine := a.engine.setIdentity (some json)
    seen := a.seen ++ json.read.toList }

/-- `SecureStorage.get` has come back, or has thrown. -/
def readStorage (a : IdentityApp) (call : Nat) (failed : Bool) : Option IdentityApp :=
  if a.calls call = some .reading then
    if failed then some (a.setCall call (some .preparing))
    else
      match a.storage, a.legacy with
      | some json, _ => some (a.pushIdentity call json)
      | none, some json => some ((a.setCall call (some .migrating)).put ⟨json, some call⟩)
      | none, none => some (a.setCall call (some .preparing))
  else none

/-- The oldest write is done, and the preference goes. -/
def finishWrite (a : IdentityApp) : Option IdentityApp :=
  match a.writes with
  | [] => none
  | write :: writes =>
    let a := { a with storage := some write.json, writes, legacy := none }
    some (write.call.elim a fun call => a.setCall call (some (.migrated write.json)))

/-- `connect` goes on with the identity that it has migrated. -/
def resumeConnect (a : IdentityApp) (call : Nat) : Option IdentityApp :=
  match a.calls call with
  | some (.migrated json) => some (a.pushIdentity call json)
  | _ => none

/-- `connect` calls `TsNative.connect` and registers the session. -/
def callEngine (a : IdentityApp) (call : Nat) : Option IdentityApp :=
  if a.calls call = some .preparing then
    let (engine, connId) := a.engine.connect
    some { a.setCall call none with
      engine
      sessions := a.sessions ++ [connId]
      saving := true }
  else none

/-- `_saveIdentity` -/
def saveIdentity (a : IdentityApp) : IdentityApp :=
  let a := { a with saving := false }
  match a.engine.getIdentity with
  | none => a
  | some json => a.put ⟨json, none⟩

/-- `_handleEvent`: the event of a session that was removed is dropped. -/
def handleConnected (a : IdentityApp) : Option IdentityApp :=
  match a.engine.events with
  | [] => none
  | (connId, identity) :: events =>
    let a := { a with engine := { a.engine with events } }
    some (if connId ∈ a.sessions then { a with handled := a.handled ++ [identity] } else a)

inductive Action where
  | startConnect
  | readStorage (call : Nat) (failed : Bool)
  | finishWrite
  | resumeConnect (call : Nat)
  | callEngine (call : Nat)
  | saveIdentity
  | cancelConnect (connId : ConnectionId)
  | removeSession (connId : ConnectionId)
  | handleConnected
  /-- A task of the engine goes on. -/
  | engine (action : IdentityEngine.Action)
  deriving DecidableEq, Repr

/-- Code of the app, which does not run while a call of `connect` has not returned. -/
def Action.ofApp : Action → Bool
  | .engine _ | .saveIdentity => false
  | _ => true

def next (a : IdentityApp) : Action → Option IdentityApp
  | .startConnect => some a.startConnect
  | .readStorage call failed => a.readStorage call failed
  | .finishWrite => a.finishWrite
  | .resumeConnect call => a.resumeConnect call
  | .callEngine call => a.callEngine call
  | .saveIdentity => if a.saving then some a.saveIdentity else none
  | .cancelConnect connId => some { a with engine := a.engine.cancelConnect connId }
  | .removeSession connId => some { a with sessions := a.sessions.erase connId }
  | .handleConnected => a.handleConnected
  | .engine action =>
    if action.ofTask then (a.engine.step action).map fun engine => { a with engine } else none

def step (a : IdentityApp) (action : Action) : Option IdentityApp :=
  if a.saving && action.ofApp then none else a.next action

end IdentityApp

end Nek0.Source
