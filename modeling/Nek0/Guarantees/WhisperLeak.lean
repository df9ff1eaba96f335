import Nek0.Library.Run
import Nek0.Source.VoiceSender

/-!
# Whispered speech stays a whisper

Samples that do not fill a frame wait in `pcm_in` for the next command, and the frame they
end up in is addressed by that command. A sample goes where it was meant to go in a run
exactly as long as no frame is sent that begins with samples of another addressing.
-/

namespace Nek0.Guarantees

open Nek0.Library Nek0.Source Nek0.Source.VoiceSender

/-- Every sample went where its command was addressed. -/
def Discreet (s : VoiceSender) : Prop :=
  ∀ packet ∈ s.packets, ∀ sample ∈ packet.samples, sample.meant = packet.addressing

/-- The command completes no frame, its first frame is not sent, or the waiting samples are
meant for where it is addressed. -/
def sameAddress (s : VoiceSender) : Action → Bool
  | .sendAudio data _ fates =>
    s.pcmIn.length + data.length < FRAME || !s.audioEncoder || fates 0 != .sent ||
      s.pcmIn.all (·.meant = s.addressing)
  | _ => true

/-- A round adds a packet with the frame, or none. -/
theorem discreet_encodeFrame (s : VoiceSender) (addressing : Addressing) (fate : FrameFate) :
    Discreet (s.encodeFrame addressing fate) ↔ Discreet s ∧
      (s.pcmIn.length < FRAME ∨ s.audioEncoder = false ∨ fate ≠ .sent ∨
        ∀ sample ∈ s.pcmIn.take FRAME, sample.meant = addressing) := by
  by_cases short : s.pcmIn.length < FRAME
  · simp [encodeFrame_short short, short]
  simp only [encodeFrame, short, if_false, false_or, Bool.not_eq_true', countPacket_audioEncoder]
  split
  · next silent => simp [Discreet, silent]
  split
  · next closed => simp [Discreet, closed, countPacket_packets]
  split
  · next running sent =>
    simp only [Discreet, countPacket_packets, List.forall_mem_append, List.forall_mem_singleton]
    simp [running, sent]
  · next lost => simp [Discreet, lost, countPacket_packets]

/-- Frames of samples that are meant for the addressee change nothing. -/
theorem discreet_encodeFrames {addressing : Addressing} (n : Nat) {fates : Nat → FrameFate}
    {s : VoiceSender} (meant : ∀ sample ∈ s.pcmIn, sample.meant = addressing) :
    Discreet (encodeFrames addressing n fates s) ↔ Discreet s := by
  induction n generalizing fates s with
  | zero => rfl
  | succ n ih =>
    have waiting : ∀ sample ∈ (s.encodeFrame addressing (fates 0)).pcmIn,
        sample.meant = addressing := by
      intro sample waits
      rcases encodeFrame_pcmIn s addressing (fates 0) with ⟨same, -⟩ | dropped | cleared
      · exact meant sample (same ▸ waits)
      · exact meant sample (List.mem_of_mem_drop (dropped ▸ waits))
      · simp [cleared] at waits
    rw [encodeFrames, ih waiting, discreet_encodeFrame]
    exact and_iff_left (.inr (.inr (.inr fun sample taken =>
      meant sample (List.mem_of_mem_take taken))))

/-- The packet that ends a stream has no samples. -/
theorem discreet_switchStream (s : VoiceSender) (whisper delivered : Bool) :
    Discreet (s.switchStream whisper delivered) ↔ Discreet s := by
  unfold switchStream
  split
  · rfl
  cases delivered with
  | false => simp [Discreet, countPacket_packets]
  | true =>
    simp only [Discreet, countPacket_packets, if_true, List.forall_mem_append,
      List.forall_mem_singleton]
    simp

/-- The first frame begins with all that waited, and the frames after it are of one command. -/
theorem discreet_sendAudio {s : VoiceSender} (short : s.pcmIn.length < FRAME) (data : List UInt32)
    (delivered : Bool) (fates : Nat → FrameFate) :
    Discreet (s.sendAudio data delivered fates) ↔
      Discreet s ∧ sameAddress s (.sendAudio data delivered fates) = true := by
  let arrived := data.map fun value => PcmSample.mk value s.addressing
  let ready := s.switchStream s.addressing.isSome delivered
  let t : VoiceSender := { ready with pcmIn := ready.pcmIn ++ arrived }
  have waits : t.pcmIn = s.pcmIn ++ arrived := by
    simp only [t, ready, switchStream_pcmIn]
  have same : Discreet t ↔ Discreet s := discreet_switchStream s _ _
  have encoder : t.audioEncoder = s.audioEncoder := switchStream_audioEncoder s _ _
  have meant : ∀ sample ∈ arrived, sample.meant = s.addressing := by
    intro sample arrives
    obtain ⟨value, -, rfl⟩ := List.mem_map.mp arrives
    rfl
  have length : arrived.length = data.length := List.length_map _
  show Discreet (encodeFrames s.addressing (t.pcmIn.length / FRAME) fates t) ↔ _
  by_cases few : s.pcmIn.length + data.length < FRAME
  · have none : t.pcmIn.length / FRAME = 0 := by
      rw [waits, List.length_append, length]
      exact Nat.div_eq_of_lt few
    rw [none, encodeFrames, same]
    simp [sameAddress, few]
  · obtain ⟨n, frames⟩ : ∃ n, t.pcmIn.length / FRAME = n + 1 := by
      refine Nat.exists_eq_succ_of_ne_zero (Nat.div_pos ?_ (by decide)).ne'
      rw [waits, List.length_append, length]
      omega
    have first : (∀ sample ∈ t.pcmIn.take FRAME, sample.meant = s.addressing) ↔
        ∀ sample ∈ s.pcmIn, sample.meant = s.addressing := by
      rw [waits, List.take_append, List.take_of_length_le short.le, List.forall_mem_append]
      exact and_iff_left fun sample taken => meant sample (List.mem_of_mem_take taken)
    have full : ¬ t.pcmIn.length < FRAME := by
      rw [waits, List.length_append, length]
      exact few
    have later : ∀ sample ∈ (t.encodeFrame s.addressing (fates 0)).pcmIn,
        sample.meant = s.addressing := by
      intro sample remains
      rcases encodeFrame_pcmIn t s.addressing (fates 0) with ⟨-, small⟩ | dropped | cleared
      · exact absurd small full
      · rw [dropped, waits, List.drop_append, List.drop_of_length_le short.le] at remains
        exact meant sample (List.mem_of_mem_drop remains)
      · simp [cleared] at remains
    rw [frames, encodeFrames, discreet_encodeFrames n later, discreet_encodeFrame, same, first,
      encoder]
    simp [sameAddress, few, full, or_assoc]

/-- Only a command sends. -/
theorem discreet_step {s t : VoiceSender} {action : Action} (short : s.pcmIn.length < FRAME)
    (taken : step s action = some t) :
    Discreet t ↔ Discreet s ∧ sameAddress s action = true := by
  cases action with
  | setWhisperTargets clients channels =>
    obtain rfl := Option.some.inj taken
    simp [sameAddress, Discreet, setWhisperTargets]
  | setWhisperActive active =>
    simp only [step, setWhisperActive, Option.some.injEq] at taken
    split at taken <;> subst taken <;> simp [sameAddress, Discreet]
  | startAudio =>
    obtain rfl := Option.some.inj taken
    simp [sameAddress, Discreet, startAudio]
  | stopAudio =>
    obtain rfl := Option.some.inj taken
    simp [sameAddress, Discreet, stopAudio]
  | sendAudio data delivered fates =>
    obtain rfl := Option.some.inj taken
    exact discreet_sendAudio short data delivered fates

/-- In every run all speech went where it was meant to go if and only if no command sent a
frame that began with samples of another addressing. -/
theorem whispers_stay_whispers {ownClientId : UInt32} {actions : List Action} {s : VoiceSender}
    (run : Run step anyStep (.new ownClientId) actions s) :
    Discreet s ↔ Run step (fun t action => sameAddress t action = true) (.new ownClientId) actions s :=
  run.holds_iff (fun t => t.pcmIn.length < FRAME) (show 0 < FRAME by decide)
    (by simp [Discreet, new]) (fun _ _ _ short taken => short_step short taken)
    fun _ _ _ short taken => discreet_step short taken

/-- Two whispered frames, then one to the channel. -/
def alignedHistory : List Action :=
  [.startAudio, .setWhisperTargets [7] [], .setWhisperActive true,
    .sendAudio (List.replicate 1000 0) true fun _ => .sent,
    .sendAudio (List.replicate 920 0) true fun _ => .sent,
    .setWhisperActive false, .sendAudio (List.replicate 960 0) true fun _ => .sent]

theorem whispers_stay_whispers_aligned : ∃ s, Run step anyStep (.new 1) alignedHistory s ∧
    s.packets.length = 5 ∧ Discreet s := by
  obtain ⟨s, met, test⟩ := reaches_of_guarded sameAddress
    (show (exec (guarded sameAddress step) (.new 1) alignedHistory).any
      (fun s => s.packets.length == 5) = true by decide +kernel)
  have run : Run step anyStep (.new 1) alignedHistory s := met.weaken fun _ _ _ => trivial
  exact ⟨s, run, by simpa using test, (whispers_stay_whispers run).mpr met⟩

/-- The last words of a whisper are fewer than a frame. -/
def whisperedHistory : List Action :=
  [.startAudio, .setWhisperTargets [7] [], .setWhisperActive true,
    .sendAudio (List.replicate 100 0) true fun _ => .sent,
    .setWhisperActive false, .sendAudio (List.replicate 860 0) true fun _ => .sent]

/-- They open the next frame, and the whole channel hears them. -/
theorem whisper_leaks : ¬ ∀ (ownClientId : UInt32) (actions : List Action) (s : VoiceSender),
    Run step anyStep (.new ownClientId) actions s → Discreet s := by
  intro discreet
  obtain ⟨s, run, leaked⟩ := reaches_of_exec anyStep (fun _ _ _ => trivial)
    (show (exec step (.new 1) whisperedHistory).any (fun s => s.packets.any fun packet =>
      packet.addressing == none && packet.samples.any (·.meant.isSome)) = true by decide +kernel)
  simp only [List.any_eq_true, Bool.and_eq_true, beq_iff_eq] at leaked
  obtain ⟨packet, sent, toChannel, sample, within, whispered⟩ := leaked
  have meant := discreet 1 whisperedHistory s run packet sent sample within
  simp [meant, toChannel] at whispered

end Nek0.Guarantees
