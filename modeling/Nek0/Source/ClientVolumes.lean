import Nek0.Library.LinkedMap
import Nek0.Source.JitterBuffer
import Nek0.Source.Notifier

/-!
# Volumes of clients and playback buffers

What `native/src/api.rs` keeps to play voice: `CLIENT_VOLUMES` by unique id, `CLIENT_BUFFERS` by
session and client id, and the roster of each session that leads from the one to the other.
`decode_to_client_buffer` runs in the event loop of a session, `ts_set_client_volume` in the app,
and the cleanup and the restart of the output in the maintenance task. Each call is one step: a
buffer is created under the lock of its entry, and a volume is stored before the buffer is looked
up. Decibels and gains are parameters, times are in milliseconds.
-/

namespace Nek0.Source

/-- `volume_db.clamp(-20.0, 20.0)`, `10.0_f32.powf(db / 20.0)` and the gain of a new buffer. -/
structure Loudness (δ γ : Type*) where
  clamp : δ → δ
  gain : δ → γ
  unity : γ

namespace ClientVolumes

abbrev AudioKey := ConnectionId × UInt16

instance : LawfulBEq AudioKey := inferInstance

/-- A client of the book; the server may not have told his unique id. -/
structure BookClient where
  id : UInt16
  uid : Option String
  deriving DecidableEq, Repr

structure TsClient where
  id : UInt32
  uid : Option String
  deriving DecidableEq, Repr

/-- `refresh_from_book` -/
def refreshFromBook (clients : List BookClient) : List TsClient :=
  clients.map fun client => ⟨client.id.toUInt32, client.uid⟩

structure TsConnection where
  connected : Bool
  clients : List TsClient
  whisperAllowMode : UInt8
  whisperAllowedUids : List String
  deriving DecidableEq, Repr

namespace TsConnection

def new : TsConnection := ⟨false, [], 0, []⟩

variable (session : TsConnection)

/-- The unique id that the roster has for a client id. -/
def uidOf (id : UInt16) : Option String :=
  (session.clients.find? fun client => client.id.toUInt16 = id).bind (·.uid)

def whisperIsAllowed (fromId : UInt16) : Bool :=
  session.whisperAllowMode = 0 || (session.uidOf fromId).any (· ∈ session.whisperAllowedUids)

end TsConnection

/-- A voice packet. `decoded` is nothing if neither decoder takes it. -/
structure InAudio (φ : Type*) where
  fromId : UInt16
  isWhisper : Bool
  packet : Packet
  decoded : Option φ
  now : Nat

structure ClientJitterBuffer (φ γ : Type*) where
  ring : JitterBuffer φ
  /-- When the last packet was received. -/
  lastPacket : Option Nat
  volume : γ

end ClientVolumes

/-- The sessions and the audio globals. -/
structure ClientVolumes (φ δ γ : Type*) where
  nextConnectionId : ConnectionId
  sessions : ConnectionId → Option ClientVolumes.TsConnection
  /-- `CLIENT_VOLUMES` -/
  volumes : String → Option δ
  /-- `CLIENT_BUFFERS` -/
  buffers : Library.LinkedMap ClientVolumes.AudioKey (ClientVolumes.ClientJitterBuffer φ γ)
  outputRestartRequested : Bool

namespace ClientVolumes

open Library

variable {φ δ γ : Type*}

def new : ClientVolumes φ δ γ where
  nextConnectionId := 1
  sessions := fun _ => none
  volumes := fun _ => none
  buffers := .empty
  outputRestartRequested := false

variable (loudness : Loudness δ γ) (e : ClientVolumes φ δ γ)

/-- The unique id of a client in the roster of a session. -/
def uidOf (key : AudioKey) : Option String :=
  (e.sessions key.1).bind (·.uidOf key.2)

section Sessions

/-- `ts_connect` -/
def connect : ClientVolumes φ δ γ :=
  { e with
    nextConnectionId := e.nextConnectionId + 1
    sessions := Function.update e.sessions e.nextConnectionId (some .new) }

/-- Changes a session if it is there. -/
def setSession (cid : ConnectionId) (change : TsConnection → TsConnection) :
    ClientVolumes φ δ γ :=
  { e with sessions := Function.update e.sessions cid ((e.sessions cid).map change) }

/-- The end of `do_connect`, and a refresh in `handle_control_item`. -/
def refresh (cid : ConnectionId) (clients : List BookClient) : ClientVolumes φ δ γ :=
  e.setSession cid ({ · with connected := true, clients := refreshFromBook clients })

def setWhisperAllowMode (cid : ConnectionId) (mode : UInt8) : ClientVolumes φ δ γ :=
  if 1 < mode then e else e.setSession cid ({ · with whisperAllowMode := mode })

def setWhisperAllowlist (cid : ConnectionId) (uids : List String) : ClientVolumes φ δ γ :=
  e.setSession cid ({ · with whisperAllowedUids := uids.filter (· ≠ "") })

def dropSessionAudio (cid : ConnectionId) : ClientVolumes φ δ γ :=
  { e with buffers := e.buffers.filter fun key _ => key.1 ≠ cid }

/-- `finalize_disconnect`, and the same end in `ts_disconnect` -/
def finalizeDisconnect (cid : ConnectionId) : ClientVolumes φ δ γ :=
  let dropped := e.dropSessionAudio cid
  { dropped with sessions := Function.update e.sessions cid none }

end Sessions

section Playback

/-- A buffer inherits the volume of the person that the roster knows by the client id. -/
def newBuffer (key : AudioKey) : ClientJitterBuffer φ γ where
  ring := .new
  lastPacket := none
  volume := ((e.uidOf key).bind e.volumes).elim loudness.unity loudness.gain

/-- `decode_to_client_buffer` in the event loop of a connected session. -/
def decodeToClientBuffer (cid : ConnectionId) (audio : InAudio φ) :
    Option (ClientVolumes φ δ γ) :=
  match e.sessions cid with
  | none => none
  | some session =>
    if !session.connected then none
    else if audio.isWhisper && !session.whisperIsAllowed audio.fromId then some e
    else
      match audio.decoded with
      | none => some e
      | some frame =>
        let key := (cid, audio.fromId)
        let buffer := (e.buffers.find key).getD (e.newBuffer loudness key)
        let (ring, accepted) := buffer.ring.receive audio.packet frame
        -- A discarded packet leaves the time of the last one.
        let lastPacket := if accepted.isSome then some audio.now else buffer.lastPacket
        some { e with buffers := e.buffers.insert key { buffer with ring, lastPacket } }

def setClientVolume (cid : ConnectionId) (clientId : UInt16) (volumeDb : δ) :
    ClientVolumes φ δ γ :=
  let volDb := loudness.clamp volumeDb
  { e with
    volumes :=
      match e.uidOf (cid, clientId) with
      | some uid => Function.update e.volumes uid (some volDb)
      | none => e.volumes
    buffers := e.buffers.modify (cid, clientId) ({ · with volume := loudness.gain volDb }) }

/-- The cleanup of buffers that had no packet for ten seconds. -/
def cleanup (now : Nat) : ClientVolumes φ δ γ :=
  { e with buffers := e.buffers.filter fun _ buffer =>
      !buffer.lastPacket.any fun last => 10000 < now - last }

def restartOutputStream : ClientVolumes φ δ γ := { e with buffers := .empty }

/-- The sessions that were ever opened. -/
def anySessionListening : Bool :=
  (List.range e.nextConnectionId).any fun cid => (e.sessions cid).any (·.connected)

/-- `ts_restart_audio_output` if it is not `forced`, else an error of the stream. -/
def requestRestart (forced : Bool) : ClientVolumes φ δ γ :=
  { e with outputRestartRequested := e.outputRestartRequested || forced || e.anySessionListening }

/-- A tick of the snapshot restarts the output if that was asked for. -/
def snapshotTick : ClientVolumes φ δ γ :=
  if e.outputRestartRequested && e.anySessionListening then
    { e.restartOutputStream with outputRestartRequested := false }
  else e

end Playback

inductive Action (φ δ : Type*) where
  | connect
  | refresh (cid : ConnectionId) (clients : List BookClient)
  | finalizeDisconnect (cid : ConnectionId)
  | setWhisperAllowMode (cid : ConnectionId) (mode : UInt8)
  | setWhisperAllowlist (cid : ConnectionId) (uids : List String)
  | audio (cid : ConnectionId) (audio : InAudio φ)
  | setClientVolume (cid : ConnectionId) (clientId : UInt16) (volumeDb : δ)
  | cleanup (now : Nat)
  | requestRestart (forced : Bool)
  | snapshotTick

def step : Action φ δ → Option (ClientVolumes φ δ γ)
  | .connect => some e.connect
  | .refresh cid clients => some (e.refresh cid clients)
  | .finalizeDisconnect cid => some (e.finalizeDisconnect cid)
  | .setWhisperAllowMode cid mode => some (e.setWhisperAllowMode cid mode)
  | .setWhisperAllowlist cid uids => some (e.setWhisperAllowlist cid uids)
  | .audio cid audio => e.decodeToClientBuffer loudness cid audio
  | .setClientVolume cid clientId volumeDb =>
    some (e.setClientVolume loudness cid clientId volumeDb)
  | .cleanup now => some (e.cleanup now)
  | .requestRestart forced => some (e.requestRestart forced)
  | .snapshotTick => some e.snapshotTick

variable {loudness e}

theorem uidOf_connect (key : AudioKey) :
    e.connect.uidOf key = if key.1 = e.nextConnectionId then none else e.uidOf key := by
  by_cases same : key.1 = e.nextConnectionId
  · simp [uidOf, connect, same, TsConnection.new, TsConnection.uidOf]
  · simp [uidOf, connect, same]

theorem uidOf_setSession (cid : ConnectionId) (change : TsConnection → TsConnection)
    (key : AudioKey) :
    (e.setSession cid change).uidOf key =
      if key.1 = cid then (e.sessions cid).bind fun session => (change session).uidOf key.2
      else e.uidOf key := by
  by_cases same : key.1 = cid
  · cases opened : e.sessions cid <;> simp [uidOf, setSession, same, opened]
  · simp [uidOf, setSession, same]

/-- A session changes without its roster. -/
theorem uidOf_setSession_same (cid : ConnectionId) {change : TsConnection → TsConnection}
    (roster : ∀ session, (change session).clients = session.clients) (key : AudioKey) :
    (e.setSession cid change).uidOf key = e.uidOf key := by
  rw [uidOf_setSession]
  split
  · next same => simp [uidOf, same, TsConnection.uidOf, roster]
  · rfl

theorem uidOf_setWhisperAllowMode (cid : ConnectionId) (mode : UInt8) (key : AudioKey) :
    (e.setWhisperAllowMode cid mode).uidOf key = e.uidOf key := by
  unfold setWhisperAllowMode
  split
  · rfl
  · refine uidOf_setSession_same cid ?_ key
    exact fun _ => rfl

theorem audio_setWhisperAllowMode (cid : ConnectionId) (mode : UInt8) :
    (e.setWhisperAllowMode cid mode).volumes = e.volumes ∧
      (e.setWhisperAllowMode cid mode).buffers = e.buffers := by
  unfold setWhisperAllowMode
  split <;> exact ⟨rfl, rfl⟩

theorem uidOf_setWhisperAllowlist (cid : ConnectionId) (uids : List String) (key : AudioKey) :
    (e.setWhisperAllowlist cid uids).uidOf key = e.uidOf key := by
  refine uidOf_setSession_same cid ?_ key
  exact fun _ => rfl

theorem uidOf_refresh_other {cid : ConnectionId} (clients : List BookClient) {key : AudioKey}
    (other : key.1 ≠ cid) : (e.refresh cid clients).uidOf key = e.uidOf key := by
  rw [refresh, uidOf_setSession, if_neg other]

theorem uidOf_finalizeDisconnect (cid : ConnectionId) (key : AudioKey) :
    (e.finalizeDisconnect cid).uidOf key = if key.1 = cid then none else e.uidOf key := by
  by_cases same : key.1 = cid
  · simp [uidOf, finalizeDisconnect, same]
  · simp [uidOf, finalizeDisconnect, same]

end ClientVolumes

end Nek0.Source
