import Nek0.Library.Hold
import Nek0.Library.Run
import Nek0.Source.VoiceCapture

/-!
# The release window of voice activation

A frame that the gate judges is passed on if and only if the gate opened on it or on one of the
`HOLD_FRAMES` frames before it that were judged.
-/

namespace Nek0.Guarantees

open Library Source Source.VoiceCapture

variable {γ ε : Type} {codec : VoiceCodec γ ε}

/-- The frames that were processed with voice activation enabled. -/
def judged (frames : List GatedFrame) : List GatedFrame := frames.filter (·.speech.isSome)

def verdicts (frames : List GatedFrame) : List Bool := frames.filterMap (·.speech)

theorem voiceGate_eq (hold : Nat) (speech : Bool) :
    voiceGate hold speech = holdTick HOLD_FRAMES hold speech := rfl

theorem length_judged (frames : List GatedFrame) :
    (judged frames).length = (verdicts frames).length := by
  induction frames with
  | nil => rfl
  | cons frame frames ih =>
    cases speech : frame.speech with
    | none =>
      rw [judged, verdicts, List.filter_cons_of_neg (by simp [speech]),
        List.filterMap_cons_none speech]
      exact ih
    | some verdict =>
      rw [judged, verdicts, List.filter_cons_of_pos (by simp [speech]),
        List.filterMap_cons_some speech]
      exact congrArg Nat.succ ih

/-- What holds of the frames since a start and of the hold. -/
structure Windowed (frames : List GatedFrame) (hold : Nat) : Prop where
  counts : Counts HOLD_FRAMES (verdicts frames) hold
  passes : ∀ k frame, (judged frames)[k]? = some frame →
    (frame.passed = true ↔ Recent HOLD_FRAMES (verdicts frames) k)

/-- A frame that is not judged changes nothing. -/
theorem Windowed.unjudged {frames : List GatedFrame} {hold : Nat} (windowed : Windowed frames hold)
    {frame : GatedFrame} (off : frame.speech = none) : Windowed (frames ++ [frame]) hold := by
  have same : verdicts (frames ++ [frame]) = verdicts frames := by simp [verdicts, off]
  have kept : judged (frames ++ [frame]) = judged frames := by simp [judged, off]
  refine ⟨?_, ?_⟩
  · rw [same]
    exact windowed.counts
  · rw [same, kept]
    exact windowed.passes

theorem Windowed.gated {frames : List GatedFrame} {hold : Nat} (windowed : Windowed frames hold)
    (samples : List PcmSample) (speech : Bool) :
    Windowed (frames ++ [⟨samples, some speech, (voiceGate hold speech).1⟩])
      (voiceGate hold speech).2 := by
  let last : GatedFrame := ⟨samples, some speech, (voiceGate hold speech).1⟩
  have more : verdicts (frames ++ [last]) = verdicts frames ++ [speech] := by simp [verdicts, last]
  have longer : judged (frames ++ [last]) = judged frames ++ [last] := by simp [judged, last]
  have length := length_judged frames
  constructor
  · rw [more, voiceGate_eq]
    exact holdTick_counts windowed.counts
  · intro k frame listed
    rw [longer] at listed
    rw [more]
    by_cases within : k < (judged frames).length
    · rw [List.getElem?_append_left within] at listed
      rw [windowed.passes k frame listed, recent_append [speech] (by omega)]
    · obtain rfl : k = (judged frames).length := by
        obtain ⟨bound, -⟩ := List.getElem?_eq_some_iff.mp listed
        rw [List.length_append, List.length_singleton] at bound
        omega
      obtain rfl : last = frame := by simpa using listed
      rw [length]
      exact holdTick_passes windowed.counts

/-- The frames of a later state, and the window on those since a start. -/
def WindowedSince (start now : VoiceCapture γ ε) : Prop :=
  ∃ frames, now.frames = start.frames ++ frames ∧ Windowed frames now.vadHold

variable {start c : VoiceCapture γ ε}

theorem WindowedSince.same {d : VoiceCapture γ ε} (windowed : WindowedSince start c)
    (frames : d.frames = c.frames) (hold : d.vadHold = c.vadHold) : WindowedSince start d := by
  rw [WindowedSince, frames, hold]
  exact windowed

theorem windowed_judge (windowed : WindowedSince start c) (samples : List PcmSample) :
    WindowedSince start (c.judge codec samples).2 := by
  obtain ⟨frames, since, window⟩ := windowed
  have later (frame : GatedFrame) : c.frames ++ [frame] = start.frames ++ (frames ++ [frame]) := by
    rw [since, List.append_assoc]
  unfold judge
  split
  · exact ⟨_, later _, window.gated samples _⟩
  · exact ⟨_, later _, window.unjudged rfl⟩

theorem windowed_encodeFrames (addressing : Addressing) (n : Nat) {delivered : Nat → Bool}
    {c : VoiceCapture γ ε} (windowed : WindowedSince start c) :
    WindowedSince start (encodeFrames codec addressing n delivered c) := by
  induction n generalizing delivered c with
  | zero => exact windowed
  | succ n ih =>
    apply ih
    obtain ⟨-, same⟩ | ⟨samples, frames, hold⟩ :=
      encodeFrame_judged codec c addressing (delivered 0)
    · rwa [same]
    · exact (windowed_judge windowed samples).same frames hold

theorem windowed_step {d : VoiceCapture γ ε} {action : Action} (windowed : WindowedSince start c)
    (taken : step codec c action = some d) : WindowedSince start d := by
  cases action with
  | sendAudio chunk =>
    obtain rfl := Option.some.inj taken
    exact windowed_encodeFrames _ _ (windowed.same rfl rfl)
  | setWhisperTargets | setWhisperActive | setVadThreshold | setVadEnabled | setMicGain
  | startAudio | stopAudio =>
    obtain rfl := Option.some.inj taken
    exact windowed.same rfl rfl

/-- A gate that opens on the first frame and stays closed. -/
def onceCodec : VoiceCodec Nat Unit where
  hybridVadShouldTransmit heard _ := (heard == 0, heard + 1)
  withThreshold heard _ := heard
  clampGain gain := gain
  newEncoder := ()
  encode _ _ _ := (some [], ())

end Nek0.Guarantees
