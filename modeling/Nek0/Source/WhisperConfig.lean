import Nek0.Source.VoiceSender

/-!
# The whisper configuration of a session

`ts_set_whisper_targets` over the life of a session in `native/src/api.rs`: a session exists while
it connects, `do_connect` learns the own client id, and the library may get another one when it
rebuilds a lost connection, of which the stored id takes no notice.
-/

namespace Nek0.Source

/-- What the JSON of a call says. -/
structure WhisperTargetsInput where
  clients : List UInt32
  channels : List UInt64
  deriving DecidableEq, Repr

structure WhisperConfig where
  /-- The voice part of `TsConnection`, with `own_client_id`. -/
  voice : VoiceSender
  /-- The client id that the server gave last, while the session is connected. -/
  ownClient : Option UInt16
  /-- The last input that was accepted, with the own id that was stored then. -/
  lastInput : Option (WhisperTargetsInput × UInt32)

namespace WhisperConfig

/-- After `ts_connect`. -/
def new : WhisperConfig := ⟨.new 0, none, none⟩

/-- `ts_set_whisper_targets`; there is no input if the pointer is null or the JSON is invalid. -/
def setWhisperTargets (s : WhisperConfig) : Option WhisperTargetsInput → WhisperConfig
  | none => s
  | some input =>
    { s with
      voice := s.voice.setWhisperTargets input.clients input.channels
      lastInput := some (input, s.voice.ownClientId) }

/-- `do_connect` -/
def connect (s : WhisperConfig) (ownClient : UInt16) : WhisperConfig :=
  { s with
    voice := { s.voice with ownClientId := ownClient.toUInt32 }
    ownClient := some ownClient }

inductive Action where
  | setWhisperTargets (input : Option WhisperTargetsInput)
  | connect (ownClient : UInt16)
  /-- The library has lost the connection and built it anew. -/
  | reconnect (ownClient : UInt16)
  | disconnect
  | setWhisperActive (active : Bool)
  | startAudio
  | stopAudio
  | sendAudio (data : List UInt32) (delivered : Bool) (fates : Nat → FrameFate)

def step (s : WhisperConfig) : Action → Option WhisperConfig
  | .setWhisperTargets input => some (s.setWhisperTargets input)
  | .connect ownClient => if s.ownClient.isSome then none else some (s.connect ownClient)
  | .reconnect ownClient => s.ownClient.map fun _ => { s with ownClient := some ownClient }
  | .disconnect => some { s with ownClient := none }
  | .setWhisperActive active => some { s with voice := (s.voice.setWhisperActive active).1 }
  | .startAudio => some { s with voice := s.voice.startAudio }
  | .stopAudio => some { s with voice := s.voice.stopAudio }
  | .sendAudio data delivered fates =>
    some { s with voice := s.voice.sendAudio data delivered fates }

end WhisperConfig

end Nek0.Source
