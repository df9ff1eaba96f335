import Mathlib.Data.List.Nodup
import Mathlib.Logic.Function.Basic
import Nek0.Library.Run
import Nek0.Source.NotifierFrames

/-!
# Volumes and contacts of persons

Where the volume of a person is written: `setClientVolume`, `_applySavedClientVolumes` and
`_applyContactToClient` of `lib/models/ts_state.dart`, the contact records of
`lib/models/contact_settings.dart`, and the table of `ts_set_client_volume` in
`native/src/api.rs`, which plays a person at unity until it has an entry and looks the client up
in its own roster. The reconciliation of a poll is one step for each session. Volumes are decibels
of a type that is a parameter. The sessions do what those of the session table do: `follows_run`.
-/

namespace Nek0.Source.PersonVolumes

/-- The arithmetic of the volumes. -/
structure Decibels (δ : Type*) where
  zero : δ
  /-- `-20.0` -/
  minimum : δ
  /-- `(a - b).abs() > 0.001` -/
  far : δ → δ → Bool
  far_self : ∀ a, far a a = false
  /-- `volume_db.clamp(-20.0, 20.0)`, in single precision. -/
  stored : δ → δ

structure TsClient (δ : Type*) where
  id : Int
  uid : Option String
  volume : δ
  deriving DecidableEq, Repr

/-- The unique id of a client, unless it is missing or empty. -/
def TsClient.person {δ : Type*} (client : TsClient δ) : Option String := client.uid.filter (· ≠ "")

structure TsConnectionState (δ : Type*) where
  connected : Bool := false
  serverUid : String := ""
  clients : List (TsClient δ) := []
  deriving DecidableEq, Repr

structure ContactSettings (δ : Type*) where
  serverUid : String
  uid : String
  customName : String
  displayMode : Int
  muted : Bool
  ignorePublicChat : Bool
  ignorePrivateChat : Bool
  ignorePokes : Bool
  hideAway : Bool
  hideAvatar : Bool
  allowWhispers : Bool
  volumeModifier : δ
  deriving DecidableEq, Repr

/-- The JSON of a record. -/
structure ContactJson (δ : Type*) where
  serverUid : Option String := none
  uid : Option String := none
  customName : Option String := none
  displayMode : Option Int := none
  muted : Option Bool := none
  ignorePublicChat : Option Bool := none
  ignorePrivateChat : Option Bool := none
  ignorePokes : Option Bool := none
  hideAway : Option Bool := none
  hideAvatar : Option Bool := none
  allowWhispers : Option Bool := none
  volumeModifier : Option δ := none
  deriving DecidableEq, Repr

namespace ContactSettings

variable {δ : Type*}

def toJson (c : ContactSettings δ) : ContactJson δ where
  serverUid := some c.serverUid
  uid := some c.uid
  customName := some c.customName
  displayMode := some c.displayMode
  muted := some c.muted
  ignorePublicChat := some c.ignorePublicChat
  ignorePrivateChat := some c.ignorePrivateChat
  ignorePokes := some c.ignorePokes
  hideAway := some c.hideAway
  hideAvatar := some c.hideAvatar
  allowWhispers := some c.allowWhispers
  volumeModifier := some c.volumeModifier

def fromJson (decibels : Decibels δ) (json : ContactJson δ) : ContactSettings δ where
  serverUid := json.serverUid.getD ""
  uid := json.uid.getD ""
  customName := json.customName.getD ""
  displayMode := json.displayMode.getD 2
  muted := json.muted.getD false
  ignorePublicChat := json.ignorePublicChat.getD false
  ignorePrivateChat := json.ignorePrivateChat.getD false
  ignorePokes := json.ignorePokes.getD false
  hideAway := json.hideAway.getD false
  hideAvatar := json.hideAvatar.getD false
  allowWhispers := json.allowWhispers.getD false
  volumeModifier := json.volumeModifier.getD decibels.zero

theorem fromJson_toJson (decibels : Decibels δ) (c : ContactSettings δ) :
    fromJson decibels c.toJson = c := rfl

/-- The volume that a record asks for. -/
def volumeDb (decibels : Decibels δ) (c : ContactSettings δ) : δ :=
  if c.muted then decibels.minimum else c.volumeModifier

end ContactSettings

structure App (δ : Type*) where
  sessions : Nat → TsConnectionState δ
  /-- The preferences `client_volume_uid_..`. -/
  volumes : String → Option δ
  /-- The preferences `contact_.._..`, by server and person. -/
  contacts : String → String → Option (ContactJson δ)
  /-- The clients of the engine, with the volumes of the last refresh from its book. -/
  native : Nat → List (TsClient δ)
  /-- `CLIENT_VOLUMES` -/
  clientVolumes : String → Option δ
  /-- What the user has set last for a person. -/
  chosen : String → Option δ
  /-- The session of the last step, if that was a reconciliation. -/
  reconciled : Option Nat

namespace App

variable {δ : Type*} (decibels : Decibels δ) (s : App δ) (cid : Nat)

/-- An installation. -/
def start : App δ where
  sessions := fun _ => {}
  volumes := fun _ => none
  contacts := fun _ _ => none
  native := fun _ => []
  clientVolumes := fun _ => none
  chosen := fun _ => none
  reconciled := none

def clients : List (TsClient δ) := (s.sessions cid).clients

def setClients (clients : List (TsClient δ)) : App δ :=
  { s with sessions := Function.update s.sessions cid { s.sessions cid with clients } }

/-- The person that the app has under a client id. -/
def personOf (clientId : Int) : Option String :=
  ((s.clients cid).find? (·.id = clientId)).bind (·.person)

/-- The unique id that the engine has for a client id. -/
def nativeUid (clientId : Int) : Option String :=
  ((s.native cid).find? (·.id = clientId)).bind (·.uid)

/-- An entry of a table is written if there is a key. -/
def write (table : String → Option δ) (key : Option String) (value : δ) : String → Option δ :=
  match key with
  | some key => Function.update table key (some value)
  | none => table

/-- `ts_set_client_volume` -/
def nativeSetClientVolume (clientId : Int) (volumeDb : δ) : App δ :=
  { s with
    clientVolumes := write s.clientVolumes (s.nativeUid cid clientId) (decibels.stored volumeDb) }

def setClientVolume (clientId : Int) (volumeDb : δ) : App δ :=
  let s := s.nativeSetClientVolume decibels cid clientId volumeDb
  let s := s.setClients cid ((s.clients cid).map fun client =>
    if client.id = clientId then { client with volume := volumeDb } else client)
  { s with volumes := write s.volumes (s.personOf cid clientId) volumeDb }

/-- The slider of a person. -/
def slide (clientId : Int) (volumeDb : δ) : App δ :=
  let s := s.setClientVolume decibels cid clientId volumeDb
  { s with chosen := write s.chosen (s.personOf cid clientId) volumeDb }

/-- `ts_get_clients` -/
def getClients : List (TsClient δ) :=
  (s.native cid).map fun client =>
    { client with volume := (client.uid.bind s.clientVolumes).getD client.volume }

def applySavedVolume (client : TsClient δ) : App δ :=
  match client.person with
  | none => s
  | some uid =>
    match s.volumes uid with
    | none => s
    | some saved =>
      if decibels.far saved client.volume then s.setClientVolume decibels cid client.id saved else s

/-- `_applyContactToClient` -/
def applyContactToClient (serverUid : String) (client : TsClient δ) : App δ :=
  match client.person with
  | none => s
  | some uid =>
    match s.contacts serverUid uid with
    | none => s
    | some json =>
      let volumeDb := (ContactSettings.fromJson decibels json).volumeDb decibels
      if decibels.far volumeDb client.volume then
        s.setClientVolume decibels cid client.id volumeDb
      else s

/-- `_applySavedClientVolumes` -/
def applySavedClientVolumes : App δ :=
  let s := (s.clients cid).foldl (applySavedVolume decibels · cid) s
  if !(s.sessions cid).connected then s
  else
    let serverUid := (s.sessions cid).serverUid
    if serverUid = "" then s
    else (s.clients cid).foldl (applyContactToClient decibels · cid serverUid) s

/-- The part of `_pollEvents` that reads the roster of a session. Rosters compare as objects, so a
new one is always taken. -/
def reconcile : App δ :=
  let clients := s.getClients cid
  let s := if clients ≠ [] then s.setClients cid clients else s
  { s.applySavedClientVolumes decibels cid with reconciled := some cid }

/-- `ContactStore.save` -/
def saveContact (c : ContactSettings δ) : App δ :=
  { s with
    contacts := Function.update s.contacts c.serverUid
      (Function.update (s.contacts c.serverUid) c.uid (some c.toJson)) }

/-- The engine refreshes its clients. A client id is there once. -/
def refreshNative (clients : List (TsClient δ)) : Option (App δ) :=
  if (clients.map (·.id)).Nodup then
    some { s with native := Function.update s.native cid clients }
  else none

/-- The events `connected` and `channels_updated` take the roster of the engine. -/
def connected (serverUid : String) : App δ :=
  { s with sessions := Function.update s.sessions cid ⟨true, serverUid, s.getClients cid⟩ }

def channelsUpdated : App δ := s.setClients cid (s.getClients cid)

def clientJoined (clientId : Int) : App δ :=
  s.setClients cid (s.clients cid ++ [⟨clientId, none, decibels.zero⟩])

def clientLeft (clientId : Int) : App δ :=
  s.setClients cid ((s.clients cid).filter (·.id ≠ clientId))

def disconnected : App δ := { s with sessions := Function.update s.sessions cid {} }

/-- Only the preferences are left. -/
def restart : App δ :=
  { s with sessions := fun _ => {}, native := fun _ => [], clientVolumes := fun _ => none }

end App

inductive Action (δ : Type*) where
  | slide (cid : Nat) (clientId : Int) (volumeDb : δ)
  | reconcile (cid : Nat)
  | saveContact (c : ContactSettings δ)
  | refreshNative (cid : Nat) (clients : List (TsClient δ))
  | connected (cid : Nat) (serverUid : String)
  | channelsUpdated (cid : Nat)
  | clientJoined (cid : Nat) (clientId : Int)
  | clientLeft (cid : Nat) (clientId : Int)
  | disconnected (cid : Nat)
  | restart
  deriving DecidableEq

namespace App

variable {δ : Type*} (decibels : Decibels δ)

/-- A step, up to the mark of a reconciliation. Nobody is muted. -/
def act (s : App δ) : Action δ → Option (App δ)
  | .slide cid clientId volumeDb => some (s.slide decibels cid clientId volumeDb)
  | .reconcile cid => some (s.reconcile decibels cid)
  | .saveContact c => if c.muted then none else some (s.saveContact c)
  | .refreshNative cid clients => s.refreshNative cid clients
  | .connected cid serverUid => some (s.connected cid serverUid)
  | .channelsUpdated cid => some (s.channelsUpdated cid)
  | .clientJoined cid clientId => some (s.clientJoined decibels cid clientId)
  | .clientLeft cid clientId => some (s.clientLeft cid clientId)
  | .disconnected cid => some (s.disconnected cid)
  | .restart => some s.restart

def step (s : App δ) (action : Action δ) : Option (App δ) :=
  act decibels { s with reconciled := none } action

end App

section Table

open Nek0.Library

variable {δ : Type*} {decibels : Decibels δ} {s : App δ} {n n' : Notifier}

/-- The sessions are those of the session table. -/
structure Follows (s : App δ) (n : Notifier) : Prop where
  connected : ∀ cid, (s.sessions cid).connected = (n.view cid).connected
  clients : ∀ cid, (n.view cid).connected = true →
    (s.clients cid).map (·.id) = (n.view cid).clients.map fun c => (c.id : Int)

/-- A client id is in a roster once. -/
def DistinctIds (n : Notifier) (a : Notifier.Action) : Prop :=
  ∀ cid, match n.change cid a with
    | .connected data => (data.clients.map (·.id)).Nodup
    | .roster clients => (clients.map (·.id)).Nodup
    | _ => True

/-- The clients of a roster, with unique ids that the table does not have. -/
def roster (decibels : Decibels δ) (uidOf : Nat → Option String) (clients : List Source.TsClient) :
    List (TsClient δ) :=
  clients.map fun c => ⟨c.id, uidOf c.id, decibels.zero⟩

theorem ids_roster (decibels : Decibels δ) (uidOf : Nat → Option String)
    (clients : List Source.TsClient) :
    (roster decibels uidOf clients).map (·.id) = clients.map fun c => (c.id : Int) := by
  rw [roster, List.map_map]
  rfl

theorem nodup_roster {uidOf : Nat → Option String} {clients : List Source.TsClient}
    (nodup : (clients.map (·.id)).Nodup) :
    ((roster decibels uidOf clients).map (·.id)).Nodup := by
  rw [ids_roster]
  have ids := nodup.map Int.ofNat_injective
  rw [List.map_map] at ids
  exact ids

theorem ids_getClients (s : App δ) (cid : Nat) :
    (s.getClients cid).map (·.id) = (s.native cid).map (·.id) := by
  rw [App.getClients, List.map_map]
  rfl

/-- The engine can have refreshed its clients to every roster. -/
theorem refresh_roster (decibels : Decibels δ) (s : App δ) (cid : Nat) (uidOf : Nat → Option String)
    {clients : List Source.TsClient} (nodup : (clients.map (·.id)).Nodup) :
    ∃ t, App.step decibels s (.refreshNative cid (roster decibels uidOf clients)) = some t ∧
      (∀ other, t.sessions other = s.sessions other) ∧
      (App.getClients { t with reconciled := none } cid).map (·.id) =
        clients.map fun c => (c.id : Int) := by
  refine ⟨_, if_pos (nodup_roster nodup), fun _ => rfl, ?_⟩
  rw [ids_getClients, ← ids_roster decibels uidOf]
  exact congrArg _ (Function.update_self ..)

/-- Where one session has become what the table has of it, all have. -/
theorem Follows.of_session {s' : App δ} {cid : ConnectionId} (follows : Follows s n)
    (others : ∀ other, other ≠ cid → s'.sessions other = s.sessions other)
    (views : ∀ other, other ≠ cid → n'.view other = n.view other)
    (connected : (s'.sessions cid).connected = (n'.view cid).connected)
    (clients : (n'.view cid).connected = true →
      (s'.clients cid).map (·.id) = (n'.view cid).clients.map fun c => (c.id : Int)) :
    Follows s' n' := by
  constructor <;> intro other <;> by_cases own : other = cid
  · exact own ▸ connected
  · rw [others other own, views other own, follows.connected]
  · exact own ▸ clients
  · rw [App.clients, others other own, views other own]
    exact follows.clients other

/-- What a step of the table does to the sessions is a run here, whoever the clients are. -/
theorem follows_step (uidOf : Nat → Option String) {a : Notifier.Action} (follows : Follows s n)
    (distinct : DistinctIds n a) (taken : n.step a = some n') :
    ∃ actions s', Run (App.step decibels) anyStep s actions s' ∧ Follows s' n' := by
  cases own : a.session with
  | none =>
    refine ⟨[], s, .start, ?_⟩
    constructor <;> intro cid <;> rw [Notifier.view_of_ne taken (by simp [own])]
    · exact follows.connected cid
    · exact follows.clients cid
  | some cid =>
    have others : ∀ other, other ≠ cid → n'.view other = n.view other := fun other different =>
      Notifier.view_of_ne taken (by simpa [own] using different.symm)
    have admitted := distinct cid
    have here := Notifier.view_step taken cid
    have unchanged (connected : (n'.view cid).connected = (n.view cid).connected)
        (clients : (n'.view cid).clients = (n.view cid).clients) :
        ∃ actions s', Run (App.step decibels) anyStep s actions s' ∧ Follows s' n' :=
      ⟨[], s, .start, follows.of_session (fun _ _ => rfl) others
        (connected ▸ follows.connected cid)
        fun on => clients ▸ follows.clients cid (connected.symm.trans on)⟩
    cases change : n.change cid a with
    | keep | starts | idle =>
      rw [change] at here
      exact unchanged (by rw [here]; rfl) (by rw [here]; rfl)
    | failed | gone =>
      rw [change] at here
      refine ⟨[.disconnected cid], _, .single trivial rfl, ?_⟩
      refine follows.of_session (fun other different => ?_) others ?_ fun on => ?_
      · exact Function.update_of_ne different _ _
      · simp [here, App.disconnected, Notifier.Change.apply]
      · simp [here, Notifier.Change.apply] at on
    | connected data =>
      rw [change] at here admitted
      obtain ⟨t, taken, sessions, ids⟩ := refresh_roster decibels s cid uidOf admitted
      refine ⟨[.refreshNative cid _, .connected cid ""], _,
        .cons trivial taken (.single trivial rfl), ?_⟩
      refine follows.of_session (fun other different => ?_) others ?_ fun _ => ?_
      · exact (Function.update_of_ne different _ _).trans (sessions other)
      · simp [here, App.connected, Notifier.Change.apply]
      · simpa [here, App.connected, App.clients, Notifier.Change.apply] using ids
    | roster clients =>
      rw [change] at here admitted
      obtain ⟨t, taken, sessions, ids⟩ := refresh_roster decibels s cid uidOf admitted
      refine ⟨[.refreshNative cid _, .channelsUpdated cid], _,
        .cons trivial taken (.single trivial rfl), ?_⟩
      refine follows.of_session (fun other different => ?_) others ?_ fun _ => ?_
      · exact (Function.update_of_ne different _ _).trans (sessions other)
      · simp [here, App.channelsUpdated, App.setClients, Notifier.Change.apply, sessions,
          follows.connected]
      · simpa [here, App.channelsUpdated, App.setClients, App.clients, Notifier.Change.apply]
          using ids

theorem follows_start : Follows (App.start : App δ) .build := ⟨fun _ => rfl, fun _ _ => rfl⟩

/-- What a run of the table does to the sessions is a run here. -/
theorem follows_run (decibels : Decibels δ) (uidOf : Nat → Option String)
    {actions : List Notifier.Action} (run : Run Notifier.step DistinctIds .build actions n) :
    ∃ actions s, Run (App.step decibels) anyStep .start actions s ∧ Follows s n :=
  run.simulate (App.step decibels) anyStep (fun n s => Follows s n) follows_start
    fun _ _ _ _ follows distinct taken => follows_step uidOf follows distinct taken

end Table

end Nek0.Source.PersonVolumes
