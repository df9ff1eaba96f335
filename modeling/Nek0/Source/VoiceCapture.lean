import Nek0.Library.Run
import Nek0.Source.VoiceSender

/-!
# Gate and encoder of outgoing voice

The `SendAudio` branch of `event_loop` with what it decides on the samples of a frame: the voice
gate with its hold, the gain and the encoder. The arithmetic on samples is left to the parameter
`VoiceCodec`: `hybrid_vad_should_transmit`, the Opus encoder and the clamps of the settings. What
it decides gives the frame its fate in `VoiceSender`; whether packets can be sent is up to the
network. `voice_active` is not here.
-/

namespace Nek0.Source

open Library

/-- `γ` is what the gate remembers between frames, `ε` the state of an encoder. -/
structure VoiceCodec (γ ε : Type) where
  /-- `hybrid_vad_should_transmit`, with what the gate has learned. -/
  hybridVadShouldTransmit : γ → List UInt32 → Bool × γ
  /-- The threshold of `ts_set_vad_threshold` in force, the noise floor unlearned. -/
  withThreshold : γ → UInt32 → γ
  clampGain : UInt32 → UInt32
  newEncoder : ε
  /-- The gain and `encoder.encode`. -/
  encode : UInt32 → ε → List UInt32 → Option (List UInt8) × ε

/-- A frame that left the buffer. -/
structure GatedFrame where
  samples : List PcmSample
  /-- The verdict of the gate, where it is enabled. -/
  speech : Option Bool
  passed : Bool
  deriving DecidableEq, Repr

/-- A frame that got a number and was encoded. -/
structure EncodedFrame where
  id : UInt16
  opusData : List UInt8
  deriving DecidableEq, Repr

structure VoiceCapture (γ ε : Type) where
  sender : VoiceSender
  vadEnabled : Bool
  vadHold : Nat
  micGain : UInt32
  gate : γ
  /-- In use while the sender has an encoder. -/
  encoder : ε
  /-- All frames so far. -/
  frames : List GatedFrame
  /-- All encoded frames so far. -/
  encoded : List EncodedFrame

namespace VoiceCapture

variable {γ ε : Type}

/-- 10 × 20 ms -/
def HOLD_FRAMES : Nat := 10

/-- Whether a frame goes on to the encoder, and the hold after it. -/
def voiceGate (vadHold : Nat) (speech : Bool) : Bool × Nat :=
  if speech then (true, HOLD_FRAMES)
  else if 0 < vadHold then (true, vadHold - 1)
  else (false, vadHold)

def new (codec : VoiceCodec γ ε) (ownClientId micGain : UInt32) (gate : γ) :
    VoiceCapture γ ε where
  sender := .new ownClientId
  vadEnabled := false
  vadHold := 0
  micGain
  gate
  encoder := codec.newEncoder
  frames := []
  encoded := []

def setSender (c : VoiceCapture γ ε) (sender : VoiceSender) : VoiceCapture γ ε := { c with sender }

/-- The gate on a frame. -/
def judge (codec : VoiceCodec γ ε) (c : VoiceCapture γ ε) (samples : List PcmSample) :
    Bool × VoiceCapture γ ε :=
  if c.vadEnabled then
    let (speech, gate) := codec.hybridVadShouldTransmit c.gate (samples.map (·.value))
    let (passed, vadHold) := voiceGate c.vadHold speech
    (passed, { c with gate, vadHold, frames := c.frames ++ [⟨samples, some speech, passed⟩] })
  else (true, { c with frames := c.frames ++ [⟨samples, none, true⟩] })

/-- The number and the encoder on a frame. -/
def compress (codec : VoiceCodec γ ε) (c : VoiceCapture γ ε) (whisper : Bool)
    (samples : List PcmSample) : Bool × VoiceCapture γ ε :=
  if c.sender.audioEncoder then
    match codec.encode c.micGain c.encoder (samples.map (·.value)) with
    | (none, encoder) => (false, { c with encoder })
    | (some opusData, encoder) =>
      (true, { c with
        encoder
        encoded := c.encoded ++ [⟨(c.sender.countPacket whisper).1, opusData⟩] })
  else (false, c)

/-- One round of the loop. -/
def encodeFrame (codec : VoiceCodec γ ε) (addressing : Addressing) (delivered : Bool)
    (c : VoiceCapture γ ε) : VoiceCapture γ ε :=
  if c.sender.pcmIn.length < FRAME then c
  else
    let samples := c.sender.pcmIn.take FRAME
    let (passed, c) := c.judge codec samples
    if !passed then c.setSender (c.sender.encodeFrame addressing .silent)
    else
      let (succeeded, c) := c.compress codec addressing.isSome samples
      let fate : FrameFate :=
        if !succeeded then .encodeFailed else if delivered then .sent else .sendFailed
      c.setSender (c.sender.encodeFrame addressing fate)

def encodeFrames (codec : VoiceCodec γ ε) (addressing : Addressing) :
    Nat → (Nat → Bool) → VoiceCapture γ ε → VoiceCapture γ ε
  | 0, _, c => c
  | n + 1, delivered, c =>
    encodeFrames codec addressing n (fun i => delivered (i + 1))
      (c.encodeFrame codec addressing (delivered 0))

/-- A `Command::SendAudio` with what the network makes of its packets: the one that ends a stream,
and those of the frames. -/
structure Chunk where
  data : List UInt32
  terminated : Bool
  delivered : Nat → Bool

/-- `Command::SendAudio` -/
def sendAudio (codec : VoiceCodec γ ε) (c : VoiceCapture γ ε) (chunk : Chunk) :
    VoiceCapture γ ε :=
  let addressing := c.sender.addressing
  let sender := c.sender.switchStream addressing.isSome chunk.terminated
  let arrived := chunk.data.map fun value => PcmSample.mk value addressing
  let sender := { sender with pcmIn := sender.pcmIn ++ arrived }
  encodeFrames codec addressing (sender.pcmIn.length / FRAME) chunk.delivered (c.setSender sender)

inductive Action where
  | setWhisperTargets (clients : List UInt32) (channels : List UInt64)
  | setWhisperActive (active : Bool)
  | setVadThreshold (threshold : UInt32)
  | setVadEnabled (enabled : Bool)
  | setMicGain (gain : UInt32)
  | startAudio
  | stopAudio
  | sendAudio (chunk : Chunk)

def step (codec : VoiceCodec γ ε) (c : VoiceCapture γ ε) : Action → Option (VoiceCapture γ ε)
  | .setWhisperTargets clients channels =>
    some (c.setSender (c.sender.setWhisperTargets clients channels))
  | .setWhisperActive active => some (c.setSender (c.sender.setWhisperActive active).1)
  | .setVadThreshold threshold => some { c with gate := codec.withThreshold c.gate threshold }
  | .setVadEnabled enabled => some { c with vadEnabled := enabled }
  | .setMicGain gain => some { c with micGain := codec.clampGain gain }
  | .startAudio => some { c with sender := c.sender.startAudio, encoder := codec.newEncoder }
  | .stopAudio => some (c.setSender c.sender.stopAudio)
  | .sendAudio chunk => some (c.sendAudio codec chunk)

section Effects

variable (codec : VoiceCodec γ ε) (c : VoiceCapture γ ε) (addressing : Addressing)

theorem judge_sender (samples : List PcmSample) : (c.judge codec samples).2.sender = c.sender := by
  unfold judge
  split <;> rfl

/-- The gate logs the frame with its decision. -/
theorem judge_logged (samples : List PcmSample) : ∃ speech,
    (c.judge codec samples).2.frames =
        c.frames ++ [⟨samples, speech, (c.judge codec samples).1⟩] ∧
      (c.judge codec samples).2.encoded = c.encoded := by
  unfold judge
  split <;> exact ⟨_, rfl, rfl⟩

/-- The encoder does not touch what the gate works on. -/
theorem compress_kept (whisper : Bool) (samples : List PcmSample) :
    (c.compress codec whisper samples).2.sender = c.sender ∧
      (c.compress codec whisper samples).2.frames = c.frames ∧
      (c.compress codec whisper samples).2.vadHold = c.vadHold := by
  unfold compress
  split
  · split <;> exact ⟨rfl, rfl, rfl⟩
  · exact ⟨rfl, rfl, rfl⟩

theorem encodeFrame_dropped (delivered : Bool)
    (full : FRAME ≤ c.sender.pcmIn.length)
    (dropped : (c.judge codec (c.sender.pcmIn.take FRAME)).1 = false) :
    c.encodeFrame codec addressing delivered =
      (c.judge codec (c.sender.pcmIn.take FRAME)).2.setSender
        (c.sender.encodeFrame addressing .silent) := by
  simp only [encodeFrame, Nat.not_lt.mpr full, if_false, dropped, judge_sender]
  rfl

theorem encodeFrame_passed (delivered : Bool)
    (full : FRAME ≤ c.sender.pcmIn.length)
    (passed : (c.judge codec (c.sender.pcmIn.take FRAME)).1 = true) :
    ∃ fate, fate ≠ .silent ∧ c.encodeFrame codec addressing delivered =
      ((c.judge codec (c.sender.pcmIn.take FRAME)).2.compress codec addressing.isSome
        (c.sender.pcmIn.take FRAME)).2.setSender (c.sender.encodeFrame addressing fate) := by
  simp only [encodeFrame, Nat.not_lt.mpr full, if_false, passed, (compress_kept _ _ _ _).1,
    judge_sender]
  refine ⟨_, ?_, rfl⟩
  split
  · simp
  · split <;> simp

/-- A round logs what the gate makes of a full frame. -/
theorem encodeFrame_judged (delivered : Bool) :
    (c.sender.pcmIn.length < FRAME ∧ c.encodeFrame codec addressing delivered = c) ∨
      ∃ samples,
        (c.encodeFrame codec addressing delivered).frames = (c.judge codec samples).2.frames ∧
        (c.encodeFrame codec addressing delivered).vadHold = (c.judge codec samples).2.vadHold := by
  by_cases short : c.sender.pcmIn.length < FRAME
  · exact .inl ⟨short, by simp [encodeFrame, short]⟩
  · refine .inr ⟨c.sender.pcmIn.take FRAME, ?_⟩
    simp only [encodeFrame, short, if_false]
    split
    · exact ⟨rfl, rfl⟩
    · exact (compress_kept codec _ addressing.isSome _).2

/-- Gate and encoder only choose the fate of a frame. -/
theorem encodeFrame_sender (delivered : Bool) :
    ∃ fate, (c.encodeFrame codec addressing delivered).sender =
      c.sender.encodeFrame addressing fate := by
  by_cases short : c.sender.pcmIn.length < FRAME
  · refine ⟨.silent, ?_⟩
    simp [encodeFrame, VoiceSender.encodeFrame, short]
  · simp only [encodeFrame, short, if_false]
    split
    · exact ⟨.silent, by rw [setSender, judge_sender]⟩
    · exact ⟨_, by rw [setSender, (compress_kept _ _ _ _).1, judge_sender]⟩

theorem encodeFrames_sender (n : Nat) (delivered : Nat → Bool) :
    ∃ fates, (encodeFrames codec addressing n delivered c).sender =
      VoiceSender.encodeFrames addressing n fates c.sender := by
  induction n generalizing delivered c with
  | zero => exact ⟨fun _ => .silent, rfl⟩
  | succ n ih =>
    obtain ⟨fate, first⟩ := encodeFrame_sender codec c addressing (delivered 0)
    obtain ⟨fates, others⟩ := ih (c.encodeFrame codec addressing (delivered 0))
      fun i => delivered (i + 1)
    refine ⟨fun i => i.casesOn fate fates, ?_⟩
    rw [encodeFrames, others, first]
    rfl

/-- A command of the source is one of `VoiceSender`, with what gate and encoder decide. -/
theorem sendAudio_sender (chunk : Chunk) :
    ∃ fates, (c.sendAudio codec chunk).sender =
      c.sender.sendAudio chunk.data chunk.terminated fates :=
  encodeFrames_sender _ _ _ _ _

variable {codec c}

theorem sender_step {d : VoiceCapture γ ε} {action : Action}
    (taken : step codec c action = some d) :
    d.sender = c.sender ∨ ∃ sent, VoiceSender.step c.sender sent = some d.sender := by
  cases action with
  | setWhisperTargets clients channels =>
    obtain rfl := Option.some.inj taken
    exact .inr ⟨.setWhisperTargets clients channels, rfl⟩
  | setWhisperActive active =>
    obtain rfl := Option.some.inj taken
    exact .inr ⟨.setWhisperActive active, rfl⟩
  | setVadThreshold threshold =>
    obtain rfl := Option.some.inj taken
    exact .inl rfl
  | setVadEnabled enabled =>
    obtain rfl := Option.some.inj taken
    exact .inl rfl
  | setMicGain gain =>
    obtain rfl := Option.some.inj taken
    exact .inl rfl
  | startAudio =>
    obtain rfl := Option.some.inj taken
    exact .inr ⟨.startAudio, rfl⟩
  | stopAudio =>
    obtain rfl := Option.some.inj taken
    exact .inr ⟨.stopAudio, rfl⟩
  | sendAudio chunk =>
    obtain rfl := Option.some.inj taken
    obtain ⟨fates, same⟩ := sendAudio_sender codec c chunk
    refine .inr ⟨.sendAudio chunk.data chunk.terminated fates, ?_⟩
    rw [same]
    rfl

/-- A session is one of `VoiceSender`. -/
theorem sender_run {start : VoiceCapture γ ε} {history : List Action}
    (run : Run (step codec) anyStep start history c) :
    ∃ actions, Run VoiceSender.step anyStep start.sender actions c.sender := by
  obtain ⟨actions, _, sent, rfl⟩ := run.simulate VoiceSender.step anyStep
    (fun c s => c.sender = s) rfl
    fun c _ d s same _ taken => by
      obtain still | ⟨action, moved⟩ := sender_step taken
      · exact ⟨[], _, .start, still.trans same⟩
      · exact ⟨[action], _, .single trivial (same ▸ moved), rfl⟩
  exact ⟨actions, sent⟩

end Effects

end VoiceCapture

end Nek0.Source
