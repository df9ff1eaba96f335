import Mathlib.Algebra.Order.Ring.Unbundled.Rat
import Mathlib.Logic.Function.Basic
import Nek0.Source.Notifier
import Nek0.Source.VoiceState

/-!
# Voice side of the engine

The fields of `TsConnection` in `native/src/lib.rs` that `ts_start_audio`, `ts_send_audio`,
`ts_set_muted`, the voice gate and the whisper calls of `native/src/api.rs` read and write.
A call for a session that the engine does not have does nothing. `ts_set_muted` counts
when it is queued, and a frame counts as sent when it is queued.
-/

namespace Nek0.Source.Voice

/-- A session of the engine. -/
structure TsConnection where
  connected : Bool
  ownClientId : Nat
  /-- Whether `audio_encoder` is there. -/
  audioEncoder : Bool
  vadEnabled : Bool
  vadThreshold : ℚ
  micGain : ℚ
  whisperActive : Bool
  whisperTargetClients : List Int
  whisperTargetChannels : List Int
  whisperAllowMode : Bool
  whisperAllowedUids : List String
  /-- What the server has been told last. -/
  inputMuted : Bool
  outputMuted : Bool

namespace TsConnection

def new : TsConnection where
  connected := false
  ownClientId := 0
  audioEncoder := false
  vadEnabled := false
  vadThreshold := 0
  micGain := 1
  whisperActive := false
  whisperTargetClients := []
  whisperTargetChannels := []
  whisperAllowMode := false
  whisperAllowedUids := []
  inputMuted := false
  outputMuted := false

def whisperMaxTargets : Nat := 100

def clampThreshold (threshold : ℚ) : ℚ := max (1 / 2000) (min threshold 1)

def clampGain (gain : ℚ) : ℚ := max 0 (min gain 3)

/-- The client list of `sanitize_whisper_targets`. -/
def sanitizeClients (ids : List Int) (ownClientId : Nat) : List Int :=
  (sortedIds (ids.filter fun id => id ≠ 0 && id ≠ ownClientId && id ≤ 65535)).take whisperMaxTargets

/-- The channel list of `sanitize_whisper_targets`. -/
def sanitizeChannels (ids : List Int) : List Int :=
  (sortedIds (ids.filter (· ≠ 0))).take whisperMaxTargets

/-- The lists that can be read as `u32` and `u64`. -/
def readable (clientIds channelIds : List Int) : Bool :=
  (clientIds.all fun id => 0 ≤ id && id < 2 ^ 32) && channelIds.all fun id => 0 ≤ id && id < 2 ^ 64

def setWhisperTargets (clientIds channelIds : List Int) (c : TsConnection) : TsConnection :=
  if readable clientIds channelIds then
    { c with
      whisperTargetClients := sanitizeClients clientIds c.ownClientId
      whisperTargetChannels := sanitizeChannels channelIds }
  else c

def hasTarget (c : TsConnection) : Bool :=
  !c.whisperTargetClients.isEmpty || !c.whisperTargetChannels.isEmpty

def setWhisperActive (active : Bool) (c : TsConnection) : TsConnection :=
  { c with whisperActive := active && c.hasTarget }

def setMuted (input output : Bool) (c : TsConnection) : TsConnection :=
  if c.connected then { c with inputMuted := input, outputMuted := output } else c

end TsConnection

structure VoiceEngine where
  nextConnectionId : ConnectionId
  sessions : ConnectionId → Option TsConnection

namespace VoiceEngine

def new : VoiceEngine := ⟨1, fun _ => none⟩

def modify (e : VoiceEngine) (cid : ConnectionId) (change : TsConnection → TsConnection) :
    VoiceEngine :=
  { e with sessions := Function.update e.sessions cid ((e.sessions cid).map change) }

theorem modify_modify (e : VoiceEngine) (cid : ConnectionId)
    (first second : TsConnection → TsConnection) :
    (e.modify cid first).modify cid second = e.modify cid (second ∘ first) := by
  simp [modify]

/-- `ts_connect` -/
def connect (e : VoiceEngine) : VoiceEngine where
  nextConnectionId := e.nextConnectionId + 1
  sessions := Function.update e.sessions e.nextConnectionId (some .new)

/-- `do_connect` has got through the handshake. -/
def connected (e : VoiceEngine) (cid : ConnectionId) (ownClientId : Nat) : VoiceEngine :=
  e.modify cid fun c => { c with connected := true, ownClientId := ownClientId }

/-- The session leaves the table. -/
def remove (e : VoiceEngine) (cid : ConnectionId) : VoiceEngine :=
  { e with sessions := Function.update e.sessions cid none }

def startAudio (e : VoiceEngine) (cid : ConnectionId) : VoiceEngine :=
  e.modify cid fun c => { c with audioEncoder := true }

def stopAudio (e : VoiceEngine) (cid : ConnectionId) : VoiceEngine :=
  e.modify cid fun c => { c with audioEncoder := false }

def setMuted (e : VoiceEngine) (cid : ConnectionId) (input output : Bool) : VoiceEngine :=
  e.modify cid (.setMuted input output)

def setVadEnabled (e : VoiceEngine) (cid : ConnectionId) (enabled : Bool) : VoiceEngine :=
  e.modify cid fun c => { c with vadEnabled := enabled }

def setVadThreshold (e : VoiceEngine) (cid : ConnectionId) (threshold : ℚ) : VoiceEngine :=
  e.modify cid fun c => { c with vadThreshold := TsConnection.clampThreshold threshold }

def setMicGain (e : VoiceEngine) (cid : ConnectionId) (gain : ℚ) : VoiceEngine :=
  e.modify cid fun c => { c with micGain := TsConnection.clampGain gain }

def setWhisperTargets (e : VoiceEngine) (cid : ConnectionId) (clientIds channelIds : List Int) :
    VoiceEngine :=
  e.modify cid (.setWhisperTargets clientIds channelIds)

/-- Whether `ts_set_whisper_active` reports success. -/
def acceptsWhisperActive (e : VoiceEngine) (cid : ConnectionId) (active : Bool) : Bool :=
  (e.sessions cid).any fun c => !active || c.hasTarget

def setWhisperActive (e : VoiceEngine) (cid : ConnectionId) (active : Bool) : VoiceEngine :=
  e.modify cid (.setWhisperActive active)

def setWhisperAllowMode (e : VoiceEngine) (cid : ConnectionId) (enabled : Bool) : VoiceEngine :=
  e.modify cid fun c => { c with whisperAllowMode := enabled }

def setWhisperAllowlist (e : VoiceEngine) (cid : ConnectionId) (uids : List String) :
    VoiceEngine :=
  e.modify cid fun c => { c with whisperAllowedUids := uids.filter (· ≠ "") }

/-- Whether `ts_send_audio` queues a frame. -/
def sendsAudio (e : VoiceEngine) (cid : ConnectionId) : Bool :=
  (e.sessions cid).any (·.connected)

end VoiceEngine

end Nek0.Source.Voice
