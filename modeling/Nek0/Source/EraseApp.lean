import Nek0.Source.HistoryApp
import Nek0.Source.IdentityStash

/-!
# Erasing the identity and the secrets

`eraseIdentityAndSecrets` of `lib/models/ts_state.dart`, over the chat history of the app, the
identity of the engine and the calls of `connect`, which read the identity, push it to the engine
and save what the engine has. The platform does one thing after the other, so that a call of it
takes effect when it is made, and only the answer comes later. The preferences that are erased as
well, and the fields of a record that nothing of this reads, are left out.
-/

namespace Nek0.Source

open Nek0.Library

/-- What a call of `connect` waits for. -/
inductive ConnectProgress where
  /-- The preferences, before the storage is asked. -/
  | starting
  /-- The answer of `SecureStorage.get`. -/
  | reading (value : Option IdentityJson)
  /-- `SecureStorage.put` with the identity of an older version. -/
  | migrating (json : IdentityJson)
  /-- The removal of its preference. -/
  | removing (json : IdentityJson)
  /-- The audio and history preferences. -/
  | preparing
  deriving DecidableEq, Repr

/-- How far `eraseIdentityAndSecrets` is. -/
inductive EraseStage where
  | untouched
  /-- It waits for `SecureStorage.delete`. -/
  | deleting
  /-- It waits for the removal of preferences. -/
  | removing
  | done
  deriving DecidableEq, Repr

structure EraseApp (ρ : Type*) where
  history : HistoryApp ρ
  engine : IdentityEngine
  /-- The secure storage under `client_identity`. -/
  storage : Option IdentityJson
  /-- The preference of that name, which older versions have written. -/
  legacy : Option IdentityJson
  /-- How far the calls in flight are, by their tickets. -/
  progress : Nat → ConnectProgress
  /-- A call has started a session, and `_saveIdentity` comes next. -/
  saving : Bool
  /-- Saves that remove the preference next. -/
  removals : Nat
  erase : EraseStage
  /-- The number of messages when the erase began. -/
  bound : Nat
  /-- The keys that the app and the engine had then. -/
  erased : List Nat

/-- The key of a stored identity. -/
def keysOf (json : Option IdentityJson) : List Nat :=
  ((json.bind IdentityJson.read).map (·.key)).toList

/-- The key that a call has read. -/
def ConnectProgress.keys : ConnectProgress → List Nat
  | .starting | .preparing => []
  | .reading value => keysOf value
  | .migrating json | .removing json => keysOf (some json)

/-- The key with which a task connects. -/
def stageKeys (stage : Option ConnectStage) : List Nat :=
  ((stage.bind ConnectStage.identity).map (·.key)).toList

def IdentityEngine.taskKeys (e : IdentityEngine) (connId : ConnectionId) : List Nat :=
  stageKeys (e.connectTasks connId)

namespace Notifier

def disconnectIfActive (s : Notifier) (cid : ConnectionId) : Notifier :=
  if (s.stateOf cid).connected || (s.stateOf cid).connecting then s.disconnect cid else s

/-- The loop of `eraseIdentityAndSecrets` over all tabs. -/
def disconnectActive (s : Notifier) : Notifier := s.order.foldl disconnectIfActive s

end Notifier

namespace EraseApp

variable {ρ : Type*}

def build [Inhabited ρ] (storage legacy : Option IdentityJson) : EraseApp ρ where
  history := .build
  engine := .new
  storage
  legacy
  progress _ := .starting
  saving := false
  removals := 0
  erase := .untouched
  bound := 0
  erased := []

section Connecting

variable (s : EraseApp ρ)

/-- The call of `connect` is in flight. -/
def isWaiting (ticket : Nat) : Bool := s.history.app.inFlight.any (·.ticket = ticket)

/-- A step of the history; a new call of `connect` is at its start. -/
def withHistory (history : HistoryApp ρ) : EraseApp ρ :=
  { s with
    history
    progress := fun ticket => if s.isWaiting ticket then s.progress ticket else .starting }

def setProgress (ticket : Nat) (progress : ConnectProgress) : EraseApp ρ :=
  { s with progress := Function.update s.progress ticket progress }

/-- `connect` pushes the identity to the engine and loads the preferences. -/
def pushIdentity (ticket : Nat) (json : IdentityJson) : EraseApp ρ :=
  { s.setProgress ticket .preparing with engine := s.engine.setIdentity (some json) }

/-- `connect` calls `SecureStorage.get`. -/
def readIdentity (ticket : Nat) : Option (EraseApp ρ) :=
  if s.isWaiting ticket && s.progress ticket = .starting then
    some (s.setProgress ticket (.reading s.storage))
  else none

/-- The answer is there. Where the read or the write of a migration throws, `connect` goes on
without an identity. -/
def gotIdentity (ticket : Nat) (failed : Bool) : Option (EraseApp ρ) :=
  match s.isWaiting ticket, s.progress ticket with
  | true, .reading value =>
    if failed then some (s.setProgress ticket .preparing)
    else
      match value, s.legacy with
      | some json, _ => some (s.pushIdentity ticket json)
      | none, some json => some { s.setProgress ticket (.migrating json) with storage := some json }
      | none, none => some (s.setProgress ticket .preparing)
  | _, _ => none

/-- The migrated identity is stored, and its preference goes. -/
def removeLegacy (ticket : Nat) : Option (EraseApp ρ) :=
  match s.isWaiting ticket, s.progress ticket with
  | true, .migrating json => some { s.setProgress ticket (.removing json) with legacy := none }
  | _, _ => none

/-- `connect` goes on with the identity that it has migrated. -/
def resumeConnect (ticket : Nat) : Option (EraseApp ρ) :=
  match s.isWaiting ticket, s.progress ticket with
  | true, .removing json => some (s.pushIdentity ticket json)
  | _, _ => none

/-- `_saveIdentity`; a write that the storage refuses only throws. -/
def saveIdentity (refused : Bool) : EraseApp ρ :=
  let s := { s with saving := false }
  match s.engine.getIdentity with
  | none => s
  | some json => if refused then s else { s with storage := some json, removals := s.removals + 1 }

/-- `_saveIdentity` after its write. -/
def finishSave : Option (EraseApp ρ) :=
  if 0 < s.removals then some { s with legacy := none, removals := s.removals - 1 } else none

end Connecting

section Erasing

variable (s : EraseApp ρ)

/-- The keys of all identities that there are. -/
def known : List Nat :=
  keysOf s.storage ++ keysOf s.legacy ++ keysOf s.engine.stash ++
    (List.range s.engine.nextConnectionId).flatMap s.engine.taskKeys

/-- `eraseIdentityAndSecrets` up to its first wait; one erase runs at a time. -/
def eraseStart (confirmed : Bool) : Option (EraseApp ρ) :=
  if s.erase = .deleting || s.erase = .removing then none
  else
    some
      { s with
        history := { s.history with app := s.history.app.disconnectActive }
        engine := s.engine.clearIdentity
        storage := if confirmed then none else s.storage
        erase := .deleting
        bound := s.history.logged
        erased := s.known }

/-- The answer of `SecureStorage.delete` is there, good or bad. -/
def eraseRemove : Option (EraseApp ρ) :=
  if s.erase = .deleting then some { s with legacy := none, erase := .removing } else none

/-- `ChatHistoryService.clearAll`, which keeps quiet where it fails. -/
def eraseClear (cleared : Bool) : Option (EraseApp ρ) :=
  if s.erase = .removing then
    let files := if cleared then fun _ => [] else s.history.files
    some { s with history := { s.history with files }, erase := .done }
  else none

end Erasing

inductive Action (ρ : Type*) where
  | history (action : HistoryApp.Action ρ)
  | readIdentity (ticket : Nat)
  | gotIdentity (ticket : Nat) (failed : Bool)
  | removeLegacy (ticket : Nat)
  | resumeConnect (ticket : Nat)
  | completeConnect (call : ConnectCall) (reply : Option ConnectionId)
  | saveIdentity (refused : Bool)
  | finishSave
  | cancelConnect (cid : ConnectionId)
  | eraseStart (confirmed : Bool)
  | eraseRemove
  | eraseClear (cleared : Bool)
  /-- A task of the engine goes on. -/
  | engine (action : IdentityEngine.Action)
  | restart

/-- Code of the app, which does not run while a call of `connect` has not returned. -/
def Action.ofApp : Action ρ → Bool
  | .engine _ | .saveIdentity _ | .restart => false
  | _ => true

section Steps

variable [Inhabited ρ] (s : EraseApp ρ)

/-- What concerns the identity as well is a step of its own. -/
def historyStep : HistoryApp.Action ρ → Option (EraseApp ρ)
  | .table (.table (.completeConnect ..)) | .table (.table (.cancelConnect _)) | .restart => none
  | action => (s.history.step action).map s.withHistory

/-- `connect` calls `TsNative.connect` and registers the session. -/
def completeConnect (call : ConnectCall) (reply : Option ConnectionId) : Option (EraseApp ρ) :=
  if s.progress call.ticket = .preparing then
    (s.history.step (.table (.table (.completeConnect call reply)))).bind fun history =>
      match reply with
      | none => some (s.withHistory history)
      | some cid =>
        if cid = s.engine.nextConnectionId then
          some { s.withHistory history with engine := s.engine.connect.1, saving := true }
        else none
  else none

def cancelConnect (cid : ConnectionId) : Option (EraseApp ρ) :=
  (s.history.step (.table (.table (.cancelConnect cid)))).map fun history =>
    { s.withHistory history with engine := s.engine.cancelConnect cid }

omit [Inhabited ρ] in
/-- A step of `do_connect`. A key pair that it makes up is a new one. -/
def engineStep (action : IdentityEngine.Action) : Option (EraseApp ρ) :=
  let isNew : Bool :=
    match action with
    | .takeIdentity _ generated => generated.key ∉ s.erased
    | _ => true
  if action.ofTask && isNew then (s.engine.step action).map fun engine => { s with engine }
  else none

/-- The process ends, and the app starts again. An erase that was not done stays so. -/
def restart : EraseApp ρ :=
  { (build s.storage s.legacy : EraseApp ρ) with
    history := s.history.restart
    erase := if s.erase = .done then .done else .untouched
    bound := s.bound
    erased := s.erased }

def next : Action ρ → Option (EraseApp ρ)
  | .history action => s.historyStep action
  | .readIdentity ticket => s.readIdentity ticket
  | .gotIdentity ticket failed => s.gotIdentity ticket failed
  | .removeLegacy ticket => s.removeLegacy ticket
  | .resumeConnect ticket => s.resumeConnect ticket
  | .completeConnect call reply => s.completeConnect call reply
  | .saveIdentity refused => if s.saving then some (s.saveIdentity refused) else none
  | .finishSave => s.finishSave
  | .cancelConnect cid => s.cancelConnect cid
  | .eraseStart confirmed => s.eraseStart confirmed
  | .eraseRemove => s.eraseRemove
  | .eraseClear cleared => s.eraseClear cleared
  | .engine action => s.engineStep action
  | .restart => some s.restart

def step (action : Action ρ) : Option (EraseApp ρ) :=
  if s.saving && action.ofApp then none else s.next action

end Steps

end EraseApp

end Nek0.Source
