import Mathlib.Algebra.Order.Field.Rat
import Nek0.Source.VoiceApp

/-!
# Audio focus and master volume

`_onAudioFocusLost` and `_onAudioFocusRegained` in `lib/models/ts_state.dart` with the
`MasterVolumeNotifier` they duck. The stored volume is read once after the start, at any
time. Only `setVolume` writes it, so it is in range.
-/

namespace Nek0.Source.Focus

open Nek0.Source.Voice

/-- A volume in the range of the slider. -/
structure VolumeDb where
  db : ℚ
  inRange : -20 ≤ db ∧ db ≤ 20
  deriving DecidableEq

namespace VolumeDb

def initial : VolumeDb := ⟨0, by decide +kernel⟩

def clamp (db : ℚ) : VolumeDb :=
  ⟨max (-20) (min db 20), le_max_left .., max_le (by decide +kernel) (min_le_right ..)⟩

@[simp] theorem clamp_db (volume : VolumeDb) : clamp volume.db = volume := by
  obtain ⟨db, low, high⟩ := volume
  simp only [clamp, min_eq_left high, max_eq_right low]

end VolumeDb

structure FocusApp where
  voice : VoiceApp
  /-- `volumeDb` of the `MasterVolumeState` -/
  volume : VolumeDb
  /-- The preference `master_volume_db`. -/
  stored : Option VolumeDb
  /-- `_restore` has not run yet. -/
  restoring : Bool
  volumeBeforeDuck : Option VolumeDb

namespace FocusApp

def build (stored : Option VolumeDb) : FocusApp := ⟨.build, .initial, stored, true, none⟩

def restore (s : FocusApp) : Option FocusApp :=
  if s.restoring then some { s with volume := s.stored.getD s.volume, restoring := false }
  else none

def setVolume (s : FocusApp) (volumeDb : ℚ) : FocusApp :=
  { s with volume := .clamp volumeDb, stored := some (.clamp volumeDb) }

def setVolumeLive (s : FocusApp) (volumeDb : ℚ) : FocusApp := { s with volume := .clamp volumeDb }

def duckDbOffset : ℚ := 6

def duckMasterVolume (s : FocusApp) : FocusApp :=
  match s.volumeBeforeDuck with
  | some _ => s
  | none =>
    { s with volumeBeforeDuck := some s.volume }.setVolumeLive
      (VolumeDb.clamp (s.volume.db - duckDbOffset)).db

def unduckMasterVolume (s : FocusApp) : FocusApp :=
  match s.volumeBeforeDuck with
  | none => s
  | some saved => { s with volumeBeforeDuck := none }.setVolumeLive saved.db

def onAudioFocusLost (s : FocusApp) : FocusApp :=
  let s := s.duckMasterVolume
  { s with voice := s.voice.onAudioFocusLost }

def onAudioFocusRegained (s : FocusApp) : FocusApp :=
  let s := s.unduckMasterVolume
  { s with voice := s.voice.onAudioFocusRegained }

/-- A callback of the audio focus. -/
def isFocus : VoiceApp.Action → Bool
  | .onAudioFocusLost => true
  | .onAudioFocusRegained => true
  | _ => false

/-- The callbacks of the audio focus do more than the voice part says. -/
inductive Action where
  | onAudioFocusLost
  | onAudioFocusRegained
  | voice (action : VoiceApp.Action)
  | setVolume (volumeDb : ℚ)
  | restore

def step (s : FocusApp) : Action → Option FocusApp
  | .onAudioFocusLost => some s.onAudioFocusLost
  | .onAudioFocusRegained => some s.onAudioFocusRegained
  | .voice action =>
    if isFocus action then none
    else (s.voice.step action).map fun voice => { s with voice := voice }
  | .setVolume volumeDb => some (s.setVolume volumeDb)
  | .restore => s.restore

section Effects

variable {s t : FocusApp}

@[simp] theorem duckMasterVolume_voice : s.duckMasterVolume.voice = s.voice := by
  rw [duckMasterVolume]
  split <;> rfl

@[simp] theorem unduckMasterVolume_voice : s.unduckMasterVolume.voice = s.voice := by
  rw [unduckMasterVolume]
  split <;> rfl

@[simp] theorem duckMasterVolume_isNone : s.duckMasterVolume.volumeBeforeDuck.isNone = false := by
  rw [duckMasterVolume]
  split
  · rename_i ducked
    rw [ducked, Option.isNone_some]
  · rfl

@[simp] theorem unduckMasterVolume_isNone : s.unduckMasterVolume.volumeBeforeDuck.isNone := by
  rw [unduckMasterVolume]
  split
  · rename_i flat
    rw [flat, Option.isNone_none]
  · rfl

theorem unduckMasterVolume_volume :
    s.unduckMasterVolume.volume = s.volumeBeforeDuck.getD s.volume := by
  rw [unduckMasterVolume]
  split
  · rename_i flat
    rw [flat, Option.getD_none]
  · rename_i saved ducked
    rw [ducked, Option.getD_some, setVolumeLive, VolumeDb.clamp_db]

/-- The voice part takes its own steps, which leave the volume alone. -/
theorem voice_step {action : VoiceApp.Action} (taken : s.step (.voice action) = some t) :
    isFocus action = false ∧ ∃ voice, s.voice.step action = some voice ∧
      t = { s with voice := voice } := by
  simp only [step, Option.ite_none_left_eq_some, Bool.not_eq_true, Option.map_eq_some_iff]
    at taken
  obtain ⟨passed, voice, moved, rfl⟩ := taken
  exact ⟨passed, voice, moved, rfl⟩

end Effects

end FocusApp

end Nek0.Source.Focus
