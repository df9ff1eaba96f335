import Nek0.Library.Cut
import Nek0.Library.Run
import Nek0.Source.VoiceCapture

/-!
# Framing does not depend on the chunks

Two states are alike when gate, encoder and the numbers of the current kind of stream have come to
the same. Alike states make the same of a frame, whatever the network does, and chunks are cut
into the frames of the whole stream.
-/

namespace Nek0.Guarantees

open Library Source Source.VoiceCapture
open Source.VoiceSender (nextId nextId_countPacket countPacket_fst nextId_switchStream)

variable {γ ε : Type} {codec : VoiceCodec γ ε} {addressing : Addressing}

/-- With an encoder, a round takes a full frame and a number for what is not dropped. -/
theorem encodeFrame_running (addressing : Addressing) {s : VoiceSender}
    (full : FRAME ≤ s.pcmIn.length) (running : s.audioEncoder = true) (fate : FrameFate) :
    (s.encodeFrame addressing fate).pcmIn = s.pcmIn.drop FRAME ∧
      (s.encodeFrame addressing fate).audioEncoder = true ∧
      nextId (s.encodeFrame addressing fate) addressing.isSome =
        if fate = .silent then nextId s addressing.isSome
        else nextId s addressing.isSome + 1 := by
  let t : VoiceSender := { s with pcmIn := s.pcmIn.drop FRAME }
  have counted : nextId (t.countPacket addressing.isSome).2 addressing.isSome =
      nextId s addressing.isSome + 1 := by
    rw [nextId_countPacket]
    cases addressing <;> rfl
  have kept : (t.countPacket addressing.isSome).2.audioEncoder = true := by
    rw [VoiceSender.countPacket_audioEncoder]
    exact running
  have drained := VoiceSender.countPacket_pcmIn t addressing.isSome
  simp only [VoiceSender.encodeFrame, Nat.not_lt.mpr full, if_false]
  split
  · refine ⟨rfl, running, ?_⟩
    cases addressing <;> rfl
  split
  next closed => simp [t, kept] at closed
  · split <;> exact ⟨drained, kept, counted⟩

structure Alike (whisper : Bool) (c d : VoiceCapture γ ε) : Prop where
  vadEnabled : c.vadEnabled = d.vadEnabled
  vadHold : c.vadHold = d.vadHold
  micGain : c.micGain = d.micGain
  gate : c.gate = d.gate
  encoder : c.encoder = d.encoder
  frames : c.frames = d.frames
  encoded : c.encoded = d.encoded
  running : c.sender.audioEncoder = true ∧ d.sender.audioEncoder = true
  next : nextId c.sender whisper = nextId d.sender whisper

namespace Alike

variable {whisper : Bool} {c d e : VoiceCapture γ ε}

theorem symm (alike : Alike whisper c d) : Alike whisper d c :=
  ⟨alike.vadEnabled.symm, alike.vadHold.symm, alike.micGain.symm, alike.gate.symm,
    alike.encoder.symm, alike.frames.symm, alike.encoded.symm, alike.running.symm, alike.next.symm⟩

theorem trans (first : Alike whisper c d) (second : Alike whisper d e) : Alike whisper c e :=
  ⟨first.vadEnabled.trans second.vadEnabled, first.vadHold.trans second.vadHold,
    first.micGain.trans second.micGain, first.gate.trans second.gate,
    first.encoder.trans second.encoder, first.frames.trans second.frames,
    first.encoded.trans second.encoded, ⟨first.running.1, second.running.2⟩,
    first.next.trans second.next⟩

/-- The gate decides the same in alike states. -/
theorem judge (codec : VoiceCodec γ ε) (alike : Alike whisper c d) (samples : List PcmSample) :
    (c.judge codec samples).1 = (d.judge codec samples).1 ∧
      Alike whisper (c.judge codec samples).2 (d.judge codec samples).2 := by
  obtain ⟨enabled, hold, gain, gate, encoder, frames, encoded, running, next⟩ := alike
  unfold VoiceCapture.judge
  rw [← enabled, ← gate, ← hold, ← frames]
  split
  · exact ⟨rfl, rfl, rfl, gain, rfl, encoder, rfl, encoded, running, next⟩
  · exact ⟨rfl, rfl, rfl, gain, rfl, encoder, rfl, encoded, running, next⟩

theorem compress (codec : VoiceCodec γ ε) (alike : Alike whisper c d) (samples : List PcmSample) :
    (c.compress codec whisper samples).1 = (d.compress codec whisper samples).1 ∧
      Alike whisper (c.compress codec whisper samples).2 (d.compress codec whisper samples).2 := by
  obtain ⟨enabled, hold, gain, gate, encoder, frames, encoded, running, next⟩ := alike
  unfold VoiceCapture.compress
  rw [running.1, running.2, ← gain, ← encoder, ← encoded, countPacket_fst, countPacket_fst, ← next]
  simp only [if_true]
  split
  · exact ⟨rfl, enabled, hold, rfl, gate, rfl, frames, rfl, running, next⟩
  · exact ⟨rfl, enabled, hold, rfl, gate, rfl, frames, rfl, running, next⟩

/-- The same number is taken, whatever the network does. -/
theorem numbered (alike : Alike addressing.isSome c d) (full : FRAME ≤ c.sender.pcmIn.length)
    (filled : FRAME ≤ d.sender.pcmIn.length) {fate other : FrameFate}
    (same : fate = .silent ↔ other = .silent) :
    Alike addressing.isSome (c.setSender (c.sender.encodeFrame addressing fate))
      (d.setSender (d.sender.encodeFrame addressing other)) := by
  obtain ⟨enabled, hold, gain, gate, encoder, frames, encoded, running, next⟩ := alike
  obtain ⟨-, first, counted⟩ := encodeFrame_running addressing full running.1 fate
  obtain ⟨-, second, numbered⟩ :=
    encodeFrame_running addressing filled running.2 other
  refine ⟨enabled, hold, gain, gate, encoder, frames, encoded, ⟨first, second⟩, ?_⟩
  show nextId (c.sender.encodeFrame addressing fate) addressing.isSome =
    nextId (d.sender.encodeFrame addressing other) addressing.isSome
  rw [counted, numbered, next]
  exact if_congr same rfl rfl

/-- Alike states make the same of a frame. -/
theorem encodeFrame (codec : VoiceCodec γ ε) (alike : Alike addressing.isSome c d)
    (full : FRAME ≤ c.sender.pcmIn.length)
    (filled : FRAME ≤ d.sender.pcmIn.length)
    (same : c.sender.pcmIn.take FRAME = d.sender.pcmIn.take FRAME) (first second : Bool) :
    Alike addressing.isSome (c.encodeFrame codec addressing first)
      (d.encodeFrame codec addressing second) := by
  obtain ⟨passes, judged⟩ := alike.judge codec (c.sender.pcmIn.take FRAME)
  have cFull : FRAME ≤ (c.judge codec (c.sender.pcmIn.take FRAME)).2.sender.pcmIn.length := by
    rwa [judge_sender]
  have dFull : FRAME ≤ (d.judge codec (c.sender.pcmIn.take FRAME)).2.sender.pcmIn.length := by
    rwa [judge_sender]
  obtain ⟨succeeds, compressed⟩ := judged.compress codec (c.sender.pcmIn.take FRAME)
  simp only [VoiceCapture.encodeFrame, Nat.not_lt.mpr full, Nat.not_lt.mpr filled, if_false,
    ← same, ← passes]
  split
  · exact judged.numbered cFull dFull Iff.rfl
  · rw [← succeeds]
    refine compressed.numbered ?_ ?_ ?_
    · rwa [(compress_kept _ _ _ _).1]
    · rwa [(compress_kept _ _ _ _).1]
    · split
      · exact Iff.rfl
      · split <;> split <;> simp

end Alike

theorem encodeFrame_pcmIn_running (codec : VoiceCodec γ ε) (addressing : Addressing)
    {c : VoiceCapture γ ε} (full : FRAME ≤ c.sender.pcmIn.length)
    (running : c.sender.audioEncoder = true) (delivered : Bool) :
    (c.encodeFrame codec addressing delivered).sender.pcmIn = c.sender.pcmIn.drop FRAME := by
  obtain ⟨fate, same⟩ := encodeFrame_sender codec c addressing delivered
  rw [same]
  exact (encodeFrame_running addressing full running fate).1

/-- A state with other samples in the buffer. -/
def holding (c : VoiceCapture γ ε) (pcmIn : List PcmSample) : VoiceCapture γ ε :=
  c.setSender { c.sender with pcmIn }

theorem Alike.holding {whisper : Bool} {c d : VoiceCapture γ ε} (alike : Alike whisper c d)
    (pcmIn : List PcmSample) : Alike whisper c (holding d pcmIn) :=
  ⟨alike.vadEnabled, alike.vadHold, alike.micGain, alike.gate, alike.encoder, alike.frames,
    alike.encoded, alike.running, alike.next⟩

/-- A stream frame by frame, with nothing waiting in between. -/
def absorb (codec : VoiceCodec γ ε) (addressing : Addressing) (c : VoiceCapture γ ε) :
    List (List PcmSample) → VoiceCapture γ ε
  | [] => c
  | frame :: frames =>
    absorb codec addressing ((holding c frame).encodeFrame codec addressing true) frames

theorem absorb_append (c : VoiceCapture γ ε) (frames others : List (List PcmSample)) :
    absorb codec addressing c (frames ++ others) =
      absorb codec addressing (absorb codec addressing c frames) others := by
  induction frames generalizing c with
  | nil => rfl
  | cons frame frames ih => exact ih _

/-- The loop makes of its buffer what its frames make one by one. -/
theorem encodeFrames_absorb (codec : VoiceCodec γ ε) (n : Nat) (delivered : Nat → Bool)
    {c d : VoiceCapture γ ε}
    (alike : Alike addressing.isSome c d) (enough : n * FRAME ≤ c.sender.pcmIn.length) :
    Alike addressing.isSome (encodeFrames codec addressing n delivered c)
        (absorb codec addressing d (cutTimes FRAME n c.sender.pcmIn)) ∧
      (encodeFrames codec addressing n delivered c).sender.pcmIn =
        c.sender.pcmIn.drop (n * FRAME) := by
  induction n generalizing delivered c d with
  | zero => exact ⟨alike, by simp [encodeFrames]⟩
  | succ n ih =>
    rw [Nat.succ_mul] at enough
    have full : FRAME ≤ c.sender.pcmIn.length := by omega
    let frame := c.sender.pcmIn.take FRAME
    have length : frame.length = FRAME := by
      rw [List.length_take]
      omega
    have filled : FRAME ≤ (holding d frame).sender.pcmIn.length := length.ge
    have same : frame = (holding d frame).sender.pcmIn.take FRAME :=
      (List.take_of_length_le length.le).symm
    have next := (alike.holding frame).encodeFrame codec full filled same (delivered 0)
      true
    have left := encodeFrame_pcmIn_running codec addressing full
      alike.running.1 (delivered 0)
    obtain ⟨rest, remains⟩ := ih (fun i => delivered (i + 1)) next (by
      rw [left, List.length_drop]
      omega)
    rw [left] at rest remains
    refine ⟨rest, ?_⟩
    rw [encodeFrames, remains, List.drop_drop, Nat.succ_mul, Nat.add_comm]

/-- A command makes of its samples what the frames of waiting and new samples make one by one. -/
theorem sendAudio_absorb (codec : VoiceCodec γ ε) {c d : VoiceCapture γ ε}
    (addressed : c.sender.addressing = addressing)
    (alike : Alike addressing.isSome c d) (chunk : Chunk) :
    let stream := c.sender.pcmIn ++ chunk.data.map fun value => PcmSample.mk value addressing
    Alike addressing.isSome (c.sendAudio codec chunk)
        (absorb codec addressing d (cut FRAME stream)) ∧
      (c.sendAudio codec chunk).sender.pcmIn = remainder FRAME stream ∧
      (c.sendAudio codec chunk).sender.addressing = addressing := by
  intro stream
  let switched := c.sender.switchStream addressing.isSome chunk.terminated
  have switched_pcmIn : switched.pcmIn = c.sender.pcmIn := VoiceSender.switchStream_pcmIn _ _ _
  let ready := holding (c.setSender switched) stream
  have begun : c.sendAudio codec chunk =
      encodeFrames codec addressing (stream.length / FRAME) chunk.delivered ready := by
    simp only [VoiceCapture.sendAudio, addressed, ready, holding, stream, ← switched_pcmIn,
      switched, setSender]
  have encoder := VoiceSender.switchStream_audioEncoder c.sender addressing.isSome chunk.terminated
  have start : Alike addressing.isSome ready d := by
    refine ⟨alike.vadEnabled, alike.vadHold, alike.micGain, alike.gate, alike.encoder,
      alike.frames, alike.encoded, ⟨encoder.trans alike.running.1, alike.running.2⟩, ?_⟩
    exact (nextId_switchStream _ _ _).trans alike.next
  obtain ⟨same, left⟩ := encodeFrames_absorb codec (stream.length / FRAME) chunk.delivered start
    (Nat.div_mul_le_self _ _)
  rw [begun]
  refine ⟨same, left, ?_⟩
  obtain ⟨fates, sent⟩ := sendAudio_sender codec c chunk
  rw [← begun, sent, ← addressed]
  exact (VoiceSender.sameRouting_sendAudio c.sender chunk.data chunk.terminated fates).addressing

def sendChunks (codec : VoiceCodec γ ε) (c : VoiceCapture γ ε) (chunks : List Chunk) :
    VoiceCapture γ ε := chunks.foldl (fun c chunk => c.sendAudio codec chunk) c

/-- What waits, and the samples of the chunks behind it. -/
def streamed (c : VoiceCapture γ ε) (chunks : List Chunk) : List PcmSample :=
  c.sender.pcmIn ++ (chunks.flatMap (·.data)).map fun value => ⟨value, c.sender.addressing⟩

/-- The chunks of a stream make of it what its frames make one by one. -/
theorem sendChunks_absorb (codec : VoiceCodec γ ε) {c d : VoiceCapture γ ε}
    (short : c.sender.pcmIn.length < FRAME)
    (alike : Alike c.sender.addressing.isSome c d) (chunks : List Chunk) :
    Alike c.sender.addressing.isSome (sendChunks codec c chunks)
        (absorb codec c.sender.addressing d (cut FRAME (streamed c chunks))) ∧
      (sendChunks codec c chunks).sender.pcmIn = remainder FRAME (streamed c chunks) := by
  induction chunks generalizing c d with
  | nil =>
    have nothing : streamed c [] = c.sender.pcmIn := by simp [streamed]
    obtain ⟨none, all⟩ := cut_of_short short
    rw [nothing, none, all]
    exact ⟨alike, rfl⟩
  | cons chunk chunks ih =>
    obtain ⟨first, left, addressed⟩ := sendAudio_absorb codec rfl alike chunk
    have filled : 0 < FRAME := by decide
    have waits : (c.sendAudio codec chunk).sender.pcmIn.length < FRAME := by
      rw [left, length_remainder]
      exact Nat.mod_lt _ filled
    rw [← addressed] at first
    obtain ⟨rest, remains⟩ := ih waits first
    have parts : streamed c (chunk :: chunks) =
        (c.sender.pcmIn ++ chunk.data.map fun value => ⟨value, c.sender.addressing⟩) ++
          (chunks.flatMap (·.data)).map fun value => ⟨value, c.sender.addressing⟩ := by
      simp [streamed]
    rw [streamed, addressed, left] at rest remains
    rw [parts, cut_append filled, absorb_append]
    refine ⟨rest, ?_⟩
    rw [remainder_append filled]
    exact remains

/-- How the frames of a stream were logged, and the numbers of those that were encoded. -/
def InSequence (whisper : Bool) (c d : VoiceCapture γ ε) (stream : List (List PcmSample)) : Prop :=
  ∃ frames kept, d.frames = c.frames ++ frames ∧ frames.map (·.samples) = stream ∧
    d.encoded = c.encoded ++ kept ∧
    (kept.map (·.id) = (List.range (frames.countP (·.passed))).map fun i =>
      nextId c.sender whisper + UInt16.ofNat i) ∧
    nextId d.sender whisper = nextId c.sender whisper + UInt16.ofNat kept.length

theorem compress_numbers (succeeds : ∀ gain encoder frame,
      (codec.encode gain encoder frame).1.isSome = true)
    {c : VoiceCapture γ ε} (running : c.sender.audioEncoder = true) (whisper : Bool)
    (samples : List PcmSample) :
    (c.compress codec whisper samples).1 = true ∧ ∃ opusData,
      (c.compress codec whisper samples).2.encoded =
        c.encoded ++ [⟨nextId c.sender whisper, opusData⟩] := by
  have some := succeeds c.micGain c.encoder (samples.map (·.value))
  unfold VoiceCapture.compress
  rw [running, if_pos rfl, countPacket_fst]
  split
  next none => simp [none] at some
  next opusData _ _ => exact ⟨rfl, opusData, rfl⟩

/-- What one frame adds to the logs and to the numbers. -/
theorem encodeFrame_logged (succeeds : ∀ gain encoder frame,
      (codec.encode gain encoder frame).1.isSome = true) (addressing : Addressing)
    {c : VoiceCapture γ ε} {samples : List PcmSample} (length : samples.length = FRAME)
    (running : c.sender.audioEncoder = true) :
    let d := (holding c samples).encodeFrame codec addressing true
    ∃ frame, frame.samples = samples ∧ d.frames = c.frames ++ [frame] ∧
      d.sender.audioEncoder = true ∧
      if frame.passed then
        (∃ opusData, d.encoded = c.encoded ++ [⟨nextId c.sender addressing.isSome, opusData⟩]) ∧
          nextId d.sender addressing.isSome = nextId c.sender addressing.isSome + 1
      else d.encoded = c.encoded ∧
        nextId d.sender addressing.isSome = nextId c.sender addressing.isSome := by
  intro d
  let held := holding c samples
  let gated := (held.judge codec samples).2
  have full : FRAME ≤ held.sender.pcmIn.length := length.ge
  have on : held.sender.audioEncoder = true := running
  have sender : gated.sender = held.sender := judge_sender codec held samples
  have taken : held.sender.pcmIn.take FRAME = samples := List.take_of_length_le length.le
  obtain ⟨speech, frames, encoded⟩ := judge_logged codec held samples
  refine ⟨⟨samples, speech, (held.judge codec samples).1⟩, rfl, ?_⟩
  cases passed : (held.judge codec samples).1 with
  | false =>
    have result : d = gated.setSender (held.sender.encodeFrame addressing .silent) := by
      have dropped := encodeFrame_dropped codec held addressing true full
        (by rwa [taken])
      rwa [taken] at dropped
    obtain ⟨-, encoder, next⟩ := encodeFrame_running addressing full on .silent
    rw [passed] at frames
    rw [result]
    exact ⟨frames, encoder, encoded, next⟩
  | true =>
    obtain ⟨fate, audible, result⟩ := encodeFrame_passed codec held addressing true full
      (by rwa [taken])
    rw [taken] at result
    obtain ⟨-, encoder, next⟩ := encodeFrame_running addressing full on fate
    have gated_on : gated.sender.audioEncoder = true := by rwa [sender]
    obtain ⟨-, opusData, numbered⟩ :=
      compress_numbers succeeds gated_on addressing.isSome samples
    obtain ⟨-, same, -⟩ := compress_kept codec gated addressing.isSome samples
    rw [sender, encoded] at numbered
    rw [passed] at frames
    rw [if_neg audible] at next
    show d.frames = _ ∧ _
    rw [show d = _ from result]
    exact ⟨same.trans frames, encoder, ⟨opusData, numbered⟩, next⟩

/-- One more frame gets the next number, or none. -/
theorem numbered_encodeFrame (succeeds : ∀ gain encoder frame,
      (codec.encode gain encoder frame).1.isSome = true)
    {c d : VoiceCapture γ ε} {absorbed : List (List PcmSample)} {samples : List PcmSample}
    (length : samples.length = FRAME) (running : d.sender.audioEncoder = true)
    (numbered : InSequence addressing.isSome c d absorbed) :
    let e := (holding d samples).encodeFrame codec addressing true
    InSequence addressing.isSome c e (absorbed ++ [samples]) ∧ e.sender.audioEncoder = true := by
  intro e
  obtain ⟨frame, samples_eq, logged, still, effect⟩ :=
    encodeFrame_logged succeeds addressing length running
  obtain ⟨frames, kept, since, cutAs, encoded, ids, next⟩ := numbered
  have frames_eq : e.frames = c.frames ++ (frames ++ [frame]) := by
    rw [logged, since, List.append_assoc]
  have cut_eq : (frames ++ [frame]).map (·.samples) = absorbed ++ [samples] := by
    simp [cutAs, samples_eq]
  refine ⟨?_, still⟩
  cases passed : frame.passed with
  | false =>
    rw [passed] at effect
    obtain ⟨same, kept_next⟩ := effect
    refine ⟨frames ++ [frame], kept, frames_eq, cut_eq, same.trans encoded, ?_, ?_⟩
    · simp [passed, ids]
    · exact kept_next.trans next
  | true =>
    rw [passed] at effect
    obtain ⟨⟨opusData, more⟩, advanced⟩ := effect
    have count : kept.length = frames.countP (·.passed) := by
      simpa using congrArg List.length ids
    refine ⟨frames ++ [frame], kept ++ [⟨nextId d.sender addressing.isSome, opusData⟩], frames_eq,
      cut_eq, ?_, ?_, ?_⟩
    · rw [more, encoded, List.append_assoc]
    · have counted : (frames ++ [frame]).countP (·.passed) = frames.countP (·.passed) + 1 := by
        simp [passed]
      rw [counted, List.range_succ, List.map_append, List.map_append, ids, next, count]
      rfl
    · rw [advanced, next, List.length_append, List.length_singleton, UInt16.ofNat_add,
        UInt16.add_assoc]
      rfl

/-- The frames of a stream are numbered one by one. -/
theorem numbered_absorb (succeeds : ∀ gain encoder frame,
      (codec.encode gain encoder frame).1.isSome = true)
    {c d : VoiceCapture γ ε} {absorbed stream : List (List PcmSample)}
    (full : ∀ samples ∈ stream, samples.length = FRAME) (running : d.sender.audioEncoder = true)
    (numbered : InSequence addressing.isSome c d absorbed) :
    InSequence addressing.isSome c (absorb codec addressing d stream) (absorbed ++ stream) := by
  induction stream generalizing d absorbed with
  | nil => simpa [absorb] using numbered
  | cons samples stream ih =>
    rw [List.forall_mem_cons] at full
    obtain ⟨one, still⟩ := numbered_encodeFrame succeeds full.1 running numbered
    rw [List.append_cons]
    exact ih full.2 still one

theorem InSequence.alike {whisper : Bool} {c d e : VoiceCapture γ ε}
    {stream : List (List PcmSample)} (numbered : InSequence whisper c d stream)
    (alike : Alike whisper e d) : InSequence whisper c e stream := by
  unfold InSequence
  rw [alike.frames, alike.encoded, alike.next]
  exact numbered

/-- The same frames, decisions and numbers, and the same samples that wait. -/
structure SameFraming (t u : VoiceCapture γ ε) : Prop where
  frames : t.frames = u.frames
  encoded : t.encoded = u.encoded
  waiting : t.sender.pcmIn = u.sender.pcmIn

/-- What the chunks of a stream make of it. -/
structure Framed (c t : VoiceCapture γ ε) (stream : List PcmSample) : Prop where
  numbered : InSequence c.sender.addressing.isSome c t (cut FRAME stream)
  /-- The last samples, as many as do not fill a frame. -/
  waiting : t.sender.pcmIn = stream.drop (stream.length - stream.length % FRAME)

/-- From any state of a session with an encoder that always succeeds, chunks of the same samples
are framed in the same way, whatever the network does. -/
theorem framing_ignores_chunks {history : List Action} {c : VoiceCapture γ ε}
    {ownClientId micGain : UInt32} {gate : γ}
    (run : Run (step codec) anyStep (.new codec ownClientId micGain gate) history c)
    (running : c.sender.audioEncoder = true)
    (succeeds : ∀ gain encoder frame, (codec.encode gain encoder frame).1.isSome = true)
    {first second : List Chunk} (same : first.flatMap (·.data) = second.flatMap (·.data)) :
    SameFraming (sendChunks codec c first) (sendChunks codec c second) ∧
      Framed c (sendChunks codec c first) (streamed c first) := by
  obtain ⟨_, sent⟩ := sender_run run
  have short : c.sender.pcmIn.length < FRAME :=
    sent.invariant (fun s => s.pcmIn.length < FRAME) (show 0 < FRAME by decide)
      fun _ _ _ short _ taken => VoiceSender.short_step short taken
  have alike : Alike c.sender.addressing.isSome c c :=
    ⟨rfl, rfl, rfl, rfl, rfl, rfl, rfl, ⟨running, running⟩, rfl⟩
  have stream : streamed c first = streamed c second := by rw [streamed, same, streamed]
  obtain ⟨one, left⟩ := sendChunks_absorb codec short alike first
  obtain ⟨other, right⟩ := sendChunks_absorb codec short alike second
  rw [← stream] at other right
  have both := one.trans other.symm
  have numbered : InSequence c.sender.addressing.isSome c c [] :=
    ⟨[], [], by simp, rfl, by simp, rfl, (UInt16.add_zero _).symm⟩
  have full : ∀ samples ∈ cut FRAME (streamed c first), samples.length = FRAME :=
    fun samples listed => length_of_mem_cutTimes (Nat.div_mul_le_self _ _) listed
  refine ⟨⟨both.frames, both.encoded, left.trans right.symm⟩, ?_, ?_⟩
  · exact (numbered_absorb succeeds full running numbered).alike one
  · rw [left, remainder_eq_end]

/-- A gate that is open and an encoder that keeps no data. -/
def openCodec : VoiceCodec Unit Unit where
  hybridVadShouldTransmit _ _ := (true, ())
  withThreshold _ _ := ()
  clampGain gain := gain
  newEncoder := ()
  encode _ _ _ := (some [], ())

/-- Two frames in one chunk, or in two of which the first holds more than a frame. -/
theorem two_frames_in_two_ways :
    let c := { VoiceCapture.new openCodec 1 0 () with sender := (VoiceSender.new 1).startAudio }
    let whole : Chunk := ⟨List.replicate 1920 0, true, fun _ => true⟩
    let larger : Chunk := ⟨List.replicate 1000 0, true, fun _ => false⟩
    let smaller : Chunk := ⟨List.replicate 920 0, false, fun _ => true⟩
    (sendChunks openCodec c [whole]).encoded.map (·.id) = [0, 1] ∧
      SameFraming (sendChunks openCodec c [whole]) (sendChunks openCodec c [larger, smaller]) := by
  intro c whole larger smaller
  have run : Run (step openCodec) anyStep (.new openCodec 1 0 ()) [.startAudio] c :=
    .single trivial rfl
  have same : [whole].flatMap (·.data) = [larger, smaller].flatMap (·.data) := by decide +kernel
  exact ⟨by decide +kernel, (framing_ignores_chunks run rfl (fun _ _ _ => rfl) same).1⟩

end Nek0.Guarantees
