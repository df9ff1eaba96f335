import Nek0.Source.ClientVolumes

/-!
# The audio tables of all sessions

`CLIENT_BUFFERS`, `AUDIO_DECODERS`, `AUDIO_DECODERS_STEREO` and `ACTIVE_CLIENT_IDS` of
`native/src/lib.rs`: `decode_to_client_buffer` fills the first three, the maintenance task,
`restart_output_stream` and `drop_session_audio` clean them up. The buffers and the sessions are
those of `ClientVolumes`; the decoders are parameters.
-/

namespace Nek0.Source

open ClientVolumes (AudioKey)

/-- A new decoder with one and with two channels, and what they make of a packet; the frame of two
channels is mixed down. -/
structure Opus (μ σ φ : Type*) where
  mono : μ
  stereo : σ
  decodeMono : μ → List UInt8 → μ × Option φ
  decodeStereo : σ → List UInt8 → σ × Option φ

structure AudioTables (φ δ γ μ σ : Type*) where
  volumes : ClientVolumes φ δ γ
  /-- `AUDIO_DECODERS` -/
  decoders : AudioKey → Option μ
  /-- `AUDIO_DECODERS_STEREO` -/
  stereoDecoders : AudioKey → Option σ
  /-- `ACTIVE_CLIENT_IDS` -/
  activeClientIds : List AudioKey

namespace AudioTables

/-- A voice packet as it comes. -/
structure AudioPacket where
  fromId : UInt16
  isWhisper : Bool
  packet : Packet
  data : List UInt8
  now : Nat

variable {φ δ γ μ σ : Type*}

def new : AudioTables φ δ γ μ σ := ⟨.new, fun _ => none, fun _ => none, []⟩

variable (loudness : Loudness δ γ) (opus : Opus μ σ φ) (t : AudioTables φ δ γ μ σ)

section Decoding

/-- Nothing is decoded for a session that is not there or a whisper that is not allowed. -/
def admits (cid : ConnectionId) (audio : AudioPacket) : Bool :=
  (t.volumes.sessions cid).any fun session =>
    session.connected && !(audio.isWhisper && !session.whisperIsAllowed audio.fromId)

/-- The decoder of a client, which is made where there is none, and the one with two channels if it
fails. -/
def decode (key : AudioKey) (data : List UInt8) : Option φ × AudioTables φ δ γ μ σ :=
  let (mono, frame) := opus.decodeMono ((t.decoders key).getD opus.mono) data
  let t := { t with decoders := Function.update t.decoders key (some mono) }
  match frame with
  | some frame => (some frame, t)
  | none =>
    let (stereo, frame) := opus.decodeStereo ((t.stereoDecoders key).getD opus.stereo) data
    (frame, { t with stereoDecoders := Function.update t.stereoDecoders key (some stereo) })

/-- `decode_to_client_buffer` in the event loop of a connected session. -/
def decodeToClientBuffer (cid : ConnectionId) (audio : AudioPacket) :
    Option (AudioTables φ δ γ μ σ) :=
  let (decoded, t) :=
    if t.admits cid audio then t.decode opus (cid, audio.fromId) audio.data else (none, t)
  (t.volumes.decodeToClientBuffer loudness cid
    ⟨audio.fromId, audio.isWhisper, audio.packet, decoded, audio.now⟩).map
      fun volumes => { t with volumes }

end Decoding

section Cleanup

def removeAll {α : Type*} (table : AudioKey → Option α) (keys : List AudioKey) (key : AudioKey) :
    Option α :=
  if key ∈ keys then none else table key

/-- The keys whose last packet came more than ten seconds ago. -/
def stale (now : Nat) : List AudioKey :=
  t.volumes.buffers.keys.filter fun key =>
    (t.volumes.buffers.find key).any fun buffer =>
      buffer.lastPacket.any fun last => 10000 < now - last

def cleanup (now : Nat) : AudioTables φ δ γ μ σ :=
  { t with
    volumes := t.volumes.cleanup now
    decoders := removeAll t.decoders (t.stale now)
    stereoDecoders := removeAll t.stereoDecoders (t.stale now) }

def refreshActiveClientSnapshot : AudioTables φ δ γ μ σ :=
  { t with activeClientIds := t.volumes.buffers.keys }

/-- The tick of the snapshot restarts the output. -/
def restarts : Bool := t.volumes.outputRestartRequested && t.volumes.anySessionListening

def snapshotTick : AudioTables φ δ γ μ σ :=
  if t.restarts then ⟨t.volumes.snapshotTick, fun _ => none, fun _ => none, []⟩
  else t.refreshActiveClientSnapshot

/-- The keys that `drop_session_audio` collects. -/
def sessionKeys (cid : ConnectionId) : List AudioKey :=
  t.volumes.buffers.keys.filter fun key => key.1 = cid

def dropSessionAudio (cid : ConnectionId) : AudioTables φ δ γ μ σ :=
  refreshActiveClientSnapshot
    { t with
      volumes := t.volumes.dropSessionAudio cid
      decoders := removeAll t.decoders (t.sessionKeys cid)
      stereoDecoders := removeAll t.stereoDecoders (t.sessionKeys cid) }

def finalizeDisconnect (cid : ConnectionId) : AudioTables φ δ γ μ σ :=
  { t.dropSessionAudio cid with volumes := t.volumes.finalizeDisconnect cid }

end Cleanup

inductive Action (δ : Type*) where
  | connect
  | refresh (cid : ConnectionId) (clients : List ClientVolumes.BookClient)
  | setWhisperAllowMode (cid : ConnectionId) (mode : UInt8)
  | setWhisperAllowlist (cid : ConnectionId) (uids : List String)
  | setClientVolume (cid : ConnectionId) (clientId : UInt16) (volumeDb : δ)
  | requestRestart (forced : Bool)
  | audio (cid : ConnectionId) (audio : AudioPacket)
  | cleanup (now : Nat)
  | snapshotTick
  | finalizeDisconnect (cid : ConnectionId)

/-- A step that leaves the decoders and the snapshot alone. -/
def inVolumes (volumes : ClientVolumes φ δ γ) : Option (AudioTables φ δ γ μ σ) :=
  some { t with volumes }

def step : Action δ → Option (AudioTables φ δ γ μ σ)
  | .connect => t.inVolumes t.volumes.connect
  | .refresh cid clients => t.inVolumes (t.volumes.refresh cid clients)
  | .setWhisperAllowMode cid mode => t.inVolumes (t.volumes.setWhisperAllowMode cid mode)
  | .setWhisperAllowlist cid uids => t.inVolumes (t.volumes.setWhisperAllowlist cid uids)
  | .setClientVolume cid clientId volumeDb =>
    t.inVolumes (t.volumes.setClientVolume loudness cid clientId volumeDb)
  | .requestRestart forced => t.inVolumes (t.volumes.requestRestart forced)
  | .audio cid audio => t.decodeToClientBuffer loudness opus cid audio
  | .cleanup now => some (t.cleanup now)
  | .snapshotTick => some t.snapshotTick
  | .finalizeDisconnect cid => some (t.finalizeDisconnect cid)

end AudioTables

end Nek0.Source
