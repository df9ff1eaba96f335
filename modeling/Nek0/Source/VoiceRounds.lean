import Nek0.Library.Run
import Nek0.Source.VoiceSender

/-!
# Outgoing voice round by round

The `SendAudio` branch of `event_loop` as the steps between which it does not hold the lock of
the session: the snapshot of the whisper configuration, the end of the previous stream, the new
samples, and for each frame its removal from the buffer and its encoding. The calls that decide
where voice goes can come in between. The whole command in `VoiceSender` is what these steps do
when nothing comes in between.
-/

namespace Nek0.Source

open Library

/-- How far the loop has come with a `SendAudio` command. -/
inductive Round where
  | idle
  | switching (addressing : Addressing) (data : List UInt32)
  | extending (addressing : Addressing) (data : List UInt32)
  | draining (addressing : Addressing)
  | encoding (addressing : Addressing) (frame : List PcmSample)
  deriving DecidableEq, Repr

structure VoiceRounds where
  sender : VoiceSender
  round : Round
  deriving DecidableEq, Repr

namespace VoiceRounds

def new (ownClientId : UInt32) : VoiceRounds := ⟨.new ownClientId, .idle⟩

inductive Action where
  | setWhisperTargets (clients : List UInt32) (channels : List UInt64)
  | setWhisperActive (active : Bool)
  | startAudio
  | stopAudio
  /-- A command with samples is taken from the queue. -/
  | snapshot (data : List UInt32)
  | switchStream (delivered : Bool)
  | extend
  | drain (passed : Bool)
  | encode (encoded delivered : Bool)
  | finish
  deriving DecidableEq, Repr

/-- The first lock on a frame: it leaves the buffer, and the gate decides. -/
def drainFrame (s : VoiceSender) (addressing : Addressing) (passed : Bool) : VoiceRounds :=
  let frame := s.pcmIn.take FRAME
  let s := { s with pcmIn := s.pcmIn.drop FRAME }
  if passed then ⟨s, .encoding addressing frame⟩ else ⟨s, .draining addressing⟩

/-- The second lock: a number, the encoder, and the packet. -/
def encodeDrained (s : VoiceSender) (addressing : Addressing) (frame : List PcmSample)
    (sent : Bool) : VoiceSender :=
  let (id, s) := s.countPacket addressing.isSome
  if !s.audioEncoder then { s with pcmIn := [] }
  else if sent then { s with packets := s.packets ++ [⟨id, addressing, frame⟩] }
  else s

def step (r : VoiceRounds) (action : Action) : Option VoiceRounds :=
  match action, r.round with
  | .setWhisperTargets clients channels, round =>
    some ⟨r.sender.setWhisperTargets clients channels, round⟩
  | .setWhisperActive active, round => some ⟨(r.sender.setWhisperActive active).1, round⟩
  | .startAudio, round => some ⟨r.sender.startAudio, round⟩
  | .stopAudio, round => some ⟨r.sender.stopAudio, round⟩
  | .snapshot data, .idle => some ⟨r.sender, .switching r.sender.addressing data⟩
  | .switchStream delivered, .switching addressing data =>
    some ⟨r.sender.switchStream addressing.isSome delivered, .extending addressing data⟩
  | .extend, .extending addressing data =>
    let arrived := data.map fun value => PcmSample.mk value addressing
    some ⟨{ r.sender with pcmIn := r.sender.pcmIn ++ arrived }, .draining addressing⟩
  | .drain passed, .draining addressing =>
    if r.sender.pcmIn.length < FRAME then none
    else some (drainFrame r.sender addressing passed)
  | .encode encoded delivered, .encoding addressing frame =>
    some ⟨encodeDrained r.sender addressing frame (encoded && delivered), .draining addressing⟩
  | .finish, .draining _ => if r.sender.pcmIn.length < FRAME then some ⟨r.sender, .idle⟩ else none
  | _, _ => none

/-- A packet that is made, and whether it is sent. -/
structure Made where
  packet : VoicePacket
  sent : Bool
  deriving DecidableEq, Repr

/-- Where the previous stream is ended: with the targets of now. -/
def previous (s : VoiceSender) : Addressing :=
  if s.whisperWasActive then some ⟨s.whisperTargetChannels, s.whisperTargetClients⟩ else none

/-- The packet that takes a number in a step. -/
def makes (r : VoiceRounds) (action : Action) : Option Made :=
  match action, r.round with
  | .switchStream delivered, .switching addressing _ =>
    if r.sender.whisperWasActive = addressing.isSome then none
    else some ⟨⟨r.sender.nextId r.sender.whisperWasActive, previous r.sender, []⟩, delivered⟩
  | .encode encoded delivered, .encoding addressing frame =>
    some ⟨⟨r.sender.nextId addressing.isSome, addressing, frame⟩,
      r.sender.audioEncoder && (encoded && delivered)⟩
  | _, _ => none

/-- The packets that a step sends. -/
def Made.packets (made : Option Made) : List VoicePacket :=
  ((made.filter (·.sent)).map (·.packet)).toList

@[simp] theorem Made.packets_none : Made.packets none = [] := rfl

@[simp] theorem Made.packets_lost (packet : VoicePacket) :
    Made.packets (some ⟨packet, false⟩) = [] := rfl

@[simp] theorem Made.packets_sent (packet : VoicePacket) :
    Made.packets (some ⟨packet, true⟩) = [packet] := rfl

/-- A number goes to the packet that is made; a restart begins normal voice at 0. -/
def numbered (s : VoiceSender) (action : Action) (made : Option Made) (whisper : Bool) : UInt16 :=
  match made with
  | some made =>
    if made.packet.addressing.isSome = whisper then s.nextId whisper + 1 else s.nextId whisper
  | none => if action = .startAudio ∧ whisper = false then 0 else s.nextId whisper

section Effects

variable {r t : VoiceRounds} {action : Action}

theorem nextId_counted (s : VoiceSender) (kind whisper : Bool) :
    (s.countPacket kind).2.nextId whisper =
      if kind = whisper then s.nextId whisper + 1 else s.nextId whisper := by
  cases kind <;> cases whisper <;> rfl

theorem previous_isSome (s : VoiceSender) : (previous s).isSome = s.whisperWasActive := by
  unfold previous
  cases s.whisperWasActive <;> rfl

/-- A packet is made with the next number of its kind. -/
theorem makes_id {made : Made} (makes : makes r action = some made) :
    made.packet.id = r.sender.nextId made.packet.addressing.isSome := by
  unfold VoiceRounds.makes at makes
  split at makes
  · simp only [Option.ite_none_left_eq_some, Option.some.injEq] at makes
    obtain ⟨-, rfl⟩ := makes
    simp only [previous_isSome]
  · obtain rfl := Option.some.inj makes
    rfl
  · cases makes

/-- What a step makes of numbers and packets. -/
structure Effect (s : VoiceSender) (action : Action) (made : Option Made) (t : VoiceSender) :
    Prop where
  packets : t.packets = s.packets ++ Made.packets made
  numbers : ∀ whisper, t.nextId whisper = numbered s action made whisper

theorem Effect.none {s t : VoiceSender} (packets : t.packets = s.packets)
    (numbers : ∀ whisper, t.nextId whisper = s.nextId whisper) (running : action ≠ .startAudio) :
    Effect s action none t := by
  refine ⟨by simpa using packets, fun whisper => ?_⟩
  rw [numbers, numbered, if_neg fun restart => running restart.1]

theorem switchStream_effect {s : VoiceSender} {addressing : Addressing} {data : List UInt32}
    (delivered : Bool) :
    Effect s (.switchStream delivered)
      (makes ⟨s, .switching addressing data⟩ (.switchStream delivered))
      (s.switchStream addressing.isSome delivered) := by
  unfold makes VoiceSender.switchStream
  simp only
  split
  · exact .none rfl (fun _ => rfl) nofun
  · have numbers := nextId_counted s s.whisperWasActive
    have packets := VoiceSender.countPacket_packets s s.whisperWasActive
    rw [VoiceSender.countPacket_fst]
    refine ⟨?_, fun whisper => ?_⟩
    · cases delivered with
      | false => simpa using packets
      | true => simpa [previous] using packets
    · rw [numbered, previous_isSome, ← numbers]
      rfl

theorem encodeDrained_effect {s : VoiceSender} {addressing : Addressing}
    {frame : List PcmSample} (encoded delivered : Bool) :
    Effect s (.encode encoded delivered)
      (makes ⟨s, .encoding addressing frame⟩ (.encode encoded delivered))
      (encodeDrained s addressing frame (encoded && delivered)) := by
  have numbers := nextId_counted s addressing.isSome
  have packets := VoiceSender.countPacket_packets s addressing.isSome
  have encoder := VoiceSender.countPacket_audioEncoder s addressing.isSome
  unfold makes encodeDrained
  simp only [VoiceSender.countPacket_fst, encoder]
  refine ⟨?_, fun whisper => ?_⟩
  · cases running : s.audioEncoder with
    | false => simpa using packets
    | true => cases encoded <;> cases delivered <;> simpa using packets
  · rw [numbered, ← numbers]
    split
    · rfl
    · split <;> rfl

theorem step_effect (taken : step r action = some t) :
    Effect r.sender action (makes r action) t.sender := by
  obtain ⟨s, round⟩ := r
  cases action with
  | setWhisperTargets clients channels =>
    obtain rfl := Option.some.inj taken
    exact .none rfl (fun _ => rfl) nofun
  | setWhisperActive active =>
    obtain rfl := Option.some.inj taken
    unfold VoiceSender.setWhisperActive
    simp only
    split <;> exact .none rfl (fun _ => rfl) nofun
  | startAudio =>
    obtain rfl := Option.some.inj taken
    refine ⟨by simp [makes, VoiceSender.startAudio], fun whisper => ?_⟩
    cases whisper <;> rfl
  | stopAudio =>
    obtain rfl := Option.some.inj taken
    exact .none rfl (fun _ => rfl) nofun
  | snapshot data =>
    cases round with
    | idle =>
      obtain rfl := Option.some.inj taken
      exact .none rfl (fun _ => rfl) nofun
    | _ => cases taken
  | switchStream delivered =>
    cases round with
    | switching addressing data =>
      obtain rfl := Option.some.inj taken
      exact switchStream_effect delivered
    | _ => cases taken
  | extend =>
    cases round with
    | extending addressing data =>
      obtain rfl := Option.some.inj taken
      exact .none rfl (fun _ => rfl) nofun
    | _ => cases taken
  | drain passed =>
    cases round with
    | draining addressing =>
      simp only [step, Option.ite_none_left_eq_some, Option.some.injEq] at taken
      obtain ⟨-, rfl⟩ := taken
      unfold drainFrame
      cases passed <;> exact .none rfl (fun _ => rfl) nofun
    | _ => cases taken
  | encode encoded delivered =>
    cases round with
    | encoding addressing frame =>
      obtain rfl := Option.some.inj taken
      exact encodeDrained_effect encoded delivered
    | _ => cases taken
  | finish =>
    cases round with
    | draining addressing =>
      simp only [step, Option.ite_none_right_eq_some, Option.some.injEq] at taken
      obtain ⟨-, rfl⟩ := taken
      exact .none rfl (fun _ => rfl) nofun
    | _ => cases taken

end Effects

section Whole

variable (s : VoiceSender) (addressing : Addressing)

/-- A round of the loop when nothing comes in between. -/
theorem encodeFrame_run (fate : FrameFate) : ∃ actions,
    Run step anyStep ⟨s, .draining addressing⟩ actions
      ⟨s.encodeFrame addressing fate, .draining addressing⟩ := by
  by_cases short : s.pcmIn.length < FRAME
  · rw [VoiceSender.encodeFrame_short short]
    exact ⟨[], .start⟩
  have drained (passed : Bool) : step ⟨s, .draining addressing⟩ (.drain passed) =
      some (drainFrame s addressing passed) := by simp [step, short]
  by_cases silent : fate = .silent
  · refine ⟨[.drain false], .single trivial ((drained false).trans (congrArg some ?_))⟩
    simp [VoiceSender.encodeFrame, drainFrame, short, silent]
  · refine ⟨[.drain true, .encode true (fate = .sent)],
      .cons trivial (drained true) (.single trivial (congrArg some ?_))⟩
    simp only [VoiceSender.encodeFrame, encodeDrained, short, silent, if_false, Bool.true_and,
      decide_eq_true_eq]
    rfl

theorem encodeFrames_run (n : Nat) (fates : Nat → FrameFate) : ∃ actions,
    Run step anyStep ⟨s, .draining addressing⟩ actions
      ⟨VoiceSender.encodeFrames addressing n fates s, .draining addressing⟩ := by
  induction n generalizing s fates with
  | zero => exact ⟨[], .start⟩
  | succ n ih =>
    obtain ⟨first, one⟩ := encodeFrame_run s addressing (fates 0)
    obtain ⟨rest, others⟩ := ih (s.encodeFrame addressing (fates 0)) fun i => fates (i + 1)
    exact ⟨first ++ rest, one.append others⟩

/-- The whole command is a run of its steps with nothing in between. -/
theorem sendAudio_run (data : List UInt32) (delivered : Bool) (fates : Nat → FrameFate) :
    ∃ actions, Run step anyStep ⟨s, .idle⟩ actions
      ⟨s.sendAudio data delivered fates, .idle⟩ := by
  let switched := s.switchStream s.addressing.isSome delivered
  let ready : VoiceSender :=
    { switched with
      pcmIn := switched.pcmIn ++ data.map fun value => PcmSample.mk value s.addressing }
  obtain ⟨rounds, framed⟩ :=
    encodeFrames_run ready s.addressing (ready.pcmIn.length / FRAME) fates
  have short : (s.sendAudio data delivered fates).pcmIn.length < FRAME :=
    VoiceSender.encodeFrames_short _ (Nat.lt_mul_of_div_lt (Nat.lt_succ_self _) (by decide))
  have finished : step ⟨s.sendAudio data delivered fates, .draining s.addressing⟩ .finish =
      some ⟨s.sendAudio data delivered fates, .idle⟩ := by simp [step, short]
  have begun : Run step anyStep ⟨s, .idle⟩ [.snapshot data, .switchStream delivered, .extend]
      ⟨ready, .draining s.addressing⟩ :=
    .cons trivial rfl (.cons trivial rfl (.single trivial rfl))
  exact ⟨_, begun.append (framed.append (.single trivial finished))⟩

theorem whole_step {t : VoiceSender} {action : VoiceSender.Action}
    (taken : s.step action = some t) :
    ∃ rounds, Run step anyStep ⟨s, .idle⟩ rounds ⟨t, .idle⟩ := by
  cases action with
  | setWhisperTargets clients channels =>
    obtain rfl := Option.some.inj taken
    exact ⟨_, .single (a := .setWhisperTargets clients channels) trivial rfl⟩
  | setWhisperActive active =>
    obtain rfl := Option.some.inj taken
    exact ⟨_, .single (a := .setWhisperActive active) trivial rfl⟩
  | startAudio =>
    obtain rfl := Option.some.inj taken
    exact ⟨_, .single (a := .startAudio) trivial rfl⟩
  | stopAudio =>
    obtain rfl := Option.some.inj taken
    exact ⟨_, .single (a := .stopAudio) trivial rfl⟩
  | sendAudio data delivered fates =>
    obtain rfl := Option.some.inj taken
    exact sendAudio_run s data delivered fates

/-- A run of whole actions is a run round by round. -/
theorem whole_run {start : VoiceSender} {actions : List VoiceSender.Action}
    (run : Run VoiceSender.step anyStep start actions s) :
    ∃ rounds, Run step anyStep ⟨start, .idle⟩ rounds ⟨s, .idle⟩ := by
  obtain ⟨rounds, _, reached, rfl⟩ := run.simulate step anyStep (fun s r => r = ⟨s, .idle⟩) rfl
    fun s _ t r same _ taken => by
      obtain ⟨rounds, more⟩ := whole_step s taken
      exact ⟨rounds, _, same ▸ more, rfl⟩
  exact ⟨rounds, reached⟩

end Whole

end VoiceRounds

end Nek0.Source
