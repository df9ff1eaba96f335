import Nek0.Library.Run
import Nek0.Source.FocusApp
import Nek0.Source.MuteEffects

/-!
# A loss of the audio focus leaves no trace

Regaining the focus unmutes the selected session only, goes by a mark that a full mute does not
clear, and brings back the volume from before the loss. So mutes and volume are the ones asked
for exactly as long as the session is still selected, its mark is true and no other volume was
chosen meanwhile.
-/

namespace Nek0.Guarantees

open Nek0.Library Nek0.Source.Focus
open Nek0.Source (ConnectionId)
open Nek0.Source.Voice (VoiceApp)

/-- The app with what everything but the focus asked for last: the mute of each session and the
volume. A session is `silenced` while its mute is the one of a loss of the focus. -/
structure FocusHistory where
  app : FocusApp
  held : Bool
  asked : ConnectionId → Bool
  silenced : ConnectionId → Bool
  chosen : VolumeDb

namespace FocusHistory

def start (stored : Option VolumeDb) : FocusHistory where
  app := .build stored
  held := true
  asked := fun _ => false
  silenced := fun _ => false
  chosen := .initial

def hold (k : FocusHistory) : FocusApp.Action → Bool
  | .onAudioFocusLost => false
  | .onAudioFocusRegained => true
  | _ => k.held

/-- A toggle asks for the opposite of what is shown. -/
def ask (k : FocusHistory) : FocusApp.Action → ConnectionId → Bool
  | .voice action => fun cid => (k.app.voice.mutesTo cid action).getD (k.asked cid)
  | _ => k.asked

def silence (k : FocusHistory) : FocusApp.Action → ConnectionId → Bool
  | .onAudioFocusLost => fun cid =>
    k.silenced cid || k.app.voice.selectedId = some cid &&
      (k.app.voice.stateOf cid).connected && !(k.app.voice.stateOf cid).inputMuted
  | .onAudioFocusRegained => fun cid => k.silenced cid && !k.app.voice.unmutes cid
  | .voice action => fun cid => k.silenced cid && (k.app.voice.mutesTo cid action).isNone
  | _ => k.silenced

def choose (k : FocusHistory) : FocusApp.Action → VolumeDb
  | .setVolume volumeDb => .clamp volumeDb
  | .restore => k.app.stored.getD k.chosen
  | _ => k.chosen

def step (k : FocusHistory) (action : FocusApp.Action) : Option FocusHistory :=
  (k.app.step action).map fun app =>
    ⟨app, k.hold action, k.ask action, k.silence action, k.choose action⟩

end FocusHistory

/-- Every connected session is muted as asked, and the volume is the one chosen. -/
structure AsAsked (k : FocusHistory) : Prop where
  muted : ∀ cid, (k.app.voice.stateOf cid).connected = true →
    (k.app.voice.stateOf cid).inputMuted = k.asked cid
  volume : k.app.volume = k.chosen

/-- Of the connected sessions only the selected one is muted by a loss of the focus, its mark
says whether it is, and no other volume was chosen since the loss. -/
structure Restorable (k : FocusHistory) : Prop where
  alone : ∀ cid ∈ k.app.voice.sessions.keys, (k.app.voice.stateOf cid).connected = true →
    k.silenced cid = true → k.app.voice.selectedId = some cid
  marked : ∀ cid ∈ k.app.voice.selectedId, (k.app.voice.stateOf cid).connected = true →
    (k.app.voice.stateOf cid).inputMuted = true → k.app.voice.marked cid = k.silenced cid
  volume : ∀ saved ∈ k.app.volumeBeforeDuck, saved = k.chosen

instance (k : FocusHistory) : Decidable (Restorable k) :=
  decidable_of_iff (_ ∧ _ ∧ _)
    ⟨fun both => ⟨both.1, both.2.1, both.2.2⟩, fun all => ⟨all.alone, all.marked, all.volume⟩⟩

/-- The focus is regained in a state it can be restored from. While the focus is held, no
session that a loss has muted gets connected. -/
def restoresAll (k : FocusHistory) : FocusApp.Action → Bool
  | .onAudioFocusRegained => decide (Restorable k)
  | .voice (.event cid (.connected _)) =>
    !(k.held && k.app.voice.hears cid && k.silenced cid)
  | _ => true

/-- The mute of a session is the one asked for or the one of a loss. -/
structure Tallied (k : FocusHistory) : Prop where
  muted : ∀ cid, (k.app.voice.stateOf cid).inputMuted = (k.asked cid || k.silenced cid)
  silenced : ∀ cid, k.silenced cid = true → k.asked cid = false
  ducked : k.held = k.app.volumeBeforeDuck.isNone

theorem tallied_start (stored : Option VolumeDb) : Tallied (.start stored) where
  muted _ := rfl
  silenced _ silenced := by cases silenced
  ducked := rfl

section Tallied

variable {k after : FocusHistory} {cid : ConnectionId}

/-- A connected session is as asked unless a loss has muted it. -/
theorem Tallied.asked_iff (tallied : Tallied k) :
    (k.app.voice.stateOf cid).inputMuted = k.asked cid ↔ k.silenced cid = false := by
  have quiet := tallied.silenced cid
  rw [tallied.muted cid]
  cases silenced : k.silenced cid with
  | false => simp
  | true => simp [quiet silenced]

theorem AsAsked.unsilenced (asked : AsAsked k) (tallied : Tallied k)
    (connected : (k.app.voice.stateOf cid).connected = true) : k.silenced cid = false :=
  tallied.asked_iff.mp (asked.muted cid connected)

theorem tallied_voice {action : VoiceApp.Action} (tallied : Tallied k)
    (taken : k.step (.voice action) = some after) : Tallied after := by
  obtain ⟨app, stepped, rfl⟩ := Option.map_eq_some_iff.mp taken
  obtain ⟨-, voice, moved, rfl⟩ := FocusApp.voice_step stepped
  refine ⟨fun cid => ?_, fun cid silenced => ?_, tallied.ducked⟩
  · have muted : (voice.stateOf cid).inputMuted = _ := VoiceApp.muted_step moved cid
    have before := tallied.muted cid
    simp only [FocusHistory.ask, FocusHistory.silence]
    rw [muted, before]
    cases k.app.voice.mutesTo cid action <;> simp
  · simp only [FocusHistory.silence, Bool.and_eq_true, Option.isNone_iff_eq_none] at silenced
    simp only [FocusHistory.ask]
    rw [silenced.2, Option.getD_none]
    exact tallied.silenced cid silenced.1

theorem tallied_lost (tallied : Tallied k)
    (taken : k.step .onAudioFocusLost = some after) : Tallied after := by
  obtain rfl := Option.some.inj taken
  have muted (cid : ConnectionId) := tallied.muted cid
  refine ⟨fun cid => ?_, fun cid silenced => ?_, ?_⟩
  · simp only [FocusHistory.ask, FocusHistory.silence, FocusApp.onAudioFocusLost,
      FocusApp.duckMasterVolume_voice]
    rw [VoiceApp.muted_onAudioFocusLost, muted cid]
    split
    · rename_i reached
      simp only [reached.1, reached.2]
      cases k.asked cid <;> cases k.silenced cid <;> rfl
    · rename_i passed
      by_cases selected : k.app.voice.selectedId = some cid
      · have off : (k.app.voice.stateOf cid).connected = false := by simpa [selected] using passed
        simp [off]
      · simp [selected]
  · simp only [FocusHistory.silence, Bool.or_eq_true, Bool.and_eq_true, Bool.not_eq_true']
      at silenced
    rcases silenced with before | ⟨-, unmuted⟩
    · exact tallied.silenced cid before
    · rw [muted cid, Bool.or_eq_false_iff] at unmuted
      exact unmuted.1
  · exact FocusApp.duckMasterVolume_isNone.symm

/-- A regain that leaves every connected session as asked. -/
theorem tallied_regained (tallied : Tallied k)
    (taken : k.step .onAudioFocusRegained = some after) (asked : AsAsked after) :
    Tallied after := by
  obtain rfl := Option.some.inj taken
  refine ⟨fun cid => ?_, fun cid silenced => ?_, ?_⟩
  · have unmuted (unmutes : k.app.voice.unmutes cid = true) : k.asked cid = false := by
      have connected : (k.app.voice.stateOf cid).connected = true := by
        simp only [VoiceApp.unmutes, Bool.and_eq_true] at unmutes
        exact unmutes.1.2
      have same := asked.muted cid
      simp only [FocusHistory.ask, FocusApp.onAudioFocusRegained,
        FocusApp.unduckMasterVolume_voice] at same
      have moved : k.app.voice.step .onAudioFocusRegained = some k.app.voice.onAudioFocusRegained :=
        rfl
      rw [VoiceApp.connected_step moved cid, VoiceApp.muted_onAudioFocusRegained,
        if_pos unmutes] at same
      exact (same connected).symm
    simp only [FocusHistory.ask, FocusHistory.silence, FocusApp.onAudioFocusRegained,
      FocusApp.unduckMasterVolume_voice]
    rw [VoiceApp.muted_onAudioFocusRegained, tallied.muted cid]
    cases unmutes : k.app.voice.unmutes cid with
    | false => simp
    | true => simp [unmuted unmutes]
  · simp only [FocusHistory.silence, Bool.and_eq_true] at silenced
    exact tallied.silenced cid silenced.1
  · exact FocusApp.unduckMasterVolume_isNone.symm

theorem tallied_step {action : FocusApp.Action} (tallied : Tallied k)
    (taken : k.step action = some after) (reached : after.held = true → AsAsked after) :
    Tallied after := by
  cases action with
  | voice action => exact tallied_voice tallied taken
  | onAudioFocusLost => exact tallied_lost tallied taken
  | onAudioFocusRegained =>
    refine tallied_regained tallied taken (reached ?_)
    obtain rfl := Option.some.inj taken
    rfl
  | setVolume volumeDb =>
    obtain rfl := Option.some.inj taken
    exact ⟨tallied.muted, tallied.silenced, tallied.ducked⟩
  | restore =>
    obtain ⟨app, moved, rfl⟩ := Option.map_eq_some_iff.mp taken
    simp only [FocusApp.step, FocusApp.restore, Option.ite_none_right_eq_some,
      Option.some.injEq] at moved
    obtain ⟨-, rfl⟩ := moved
    exact ⟨tallied.muted, tallied.silenced, tallied.ducked⟩

/-- The focus is held again, and everything is as asked, exactly if the state could be
restored. -/
theorem asAsked_regained_iff (tallied : Tallied k) (asked : k.held = true → AsAsked k)
    (taken : k.step .onAudioFocusRegained = some after) : AsAsked after ↔ Restorable k := by
  obtain rfl := Option.some.inj taken
  have muted (cid : ConnectionId) :
      (k.app.onAudioFocusRegained.voice.stateOf cid).inputMuted =
        if k.app.voice.unmutes cid then false else (k.app.voice.stateOf cid).inputMuted := by
    simp only [FocusApp.onAudioFocusRegained, FocusApp.unduckMasterVolume_voice]
    exact VoiceApp.muted_onAudioFocusRegained
  have connected (cid : ConnectionId) : (k.app.onAudioFocusRegained.voice.stateOf cid).connected =
      (k.app.voice.stateOf cid).connected := by
    simp only [FocusApp.onAudioFocusRegained, FocusApp.unduckMasterVolume_voice]
    have moved : k.app.voice.step .onAudioFocusRegained = some k.app.voice.onAudioFocusRegained :=
      rfl
    exact VoiceApp.connected_step moved cid
  have volume : k.app.onAudioFocusRegained.volume = k.app.volumeBeforeDuck.getD k.app.volume :=
    FocusApp.unduckMasterVolume_volume
  constructor
  · intro after
    have settled (cid : ConnectionId) (live : (k.app.voice.stateOf cid).connected = true) :
        (if k.app.voice.unmutes cid then false else (k.app.voice.stateOf cid).inputMuted) =
          k.asked cid := by
      rw [← muted cid]
      exact after.muted cid ((connected cid).trans live)
    refine ⟨fun cid _ live silenced => ?_, fun cid selected live shown => ?_,
      fun saved ducked => ?_⟩
    · have same := settled cid live
      rw [tallied.muted cid, silenced, tallied.silenced cid silenced] at same
      by_cases unmutes : k.app.voice.unmutes cid = true
      · simp only [VoiceApp.unmutes, Bool.and_eq_true, decide_eq_true_eq] at unmutes
        exact unmutes.1.1.1
      · simp [unmutes] at same
    · have same := settled cid live
      have picked : k.app.voice.selectedId = some cid := selected
      have unmutes : k.app.voice.unmutes cid = k.app.voice.marked cid := by
        simp [VoiceApp.unmutes, picked, live, shown]
      have account := tallied.muted cid
      have quiet := tallied.silenced cid
      rw [unmutes, shown] at same
      rw [shown] at account
      cases mark : k.app.voice.marked cid with
      | false =>
        rw [mark] at same
        cases silenced : k.silenced cid with
        | false => rfl
        | true => simp [quiet silenced] at same
      | true =>
        rw [mark] at same
        simpa [← same] using account
    · have restored := volume.symm.trans after.volume
      rw [Option.mem_def.mp ducked, Option.getD_some] at restored
      exact restored
  · intro restorable
    refine ⟨fun cid live => ?_, ?_⟩
    · have before := (connected cid).symm.trans live
      refine (muted cid).trans ?_
      show _ = k.asked cid
      cases silenced : k.silenced cid with
      | true =>
        have selected := restorable.alone cid (VoiceApp.listed_of_connected before) before silenced
        have shown : (k.app.voice.stateOf cid).inputMuted = true := by
          rw [tallied.muted cid, silenced, Bool.or_true]
        have mark := restorable.marked cid selected before shown
        have unmutes : k.app.voice.unmutes cid = true := by
          simp [VoiceApp.unmutes, selected, before, shown, mark, silenced]
        rw [if_pos unmutes, tallied.silenced cid silenced]
      | false =>
        have stays : k.app.voice.unmutes cid = false := by
          by_contra unmutes
          simp only [VoiceApp.unmutes, Bool.not_eq_false, Bool.and_eq_true, decide_eq_true_eq]
            at unmutes
          have mark := restorable.marked cid unmutes.1.1.1 before unmutes.2
          simp [unmutes.1.1.2, silenced] at mark
        rw [stays, tallied.muted cid, silenced]
        simp
    · show _ = k.chosen
      rw [volume]
      cases ducked : k.app.volumeBeforeDuck with
      | some saved => exact restorable.volume saved ducked
      | none =>
        have held : k.held = true := by rw [tallied.ducked, ducked, Option.isNone_none]
        exact (asked held).volume

/-- While the focus is held, only a session that a loss has muted and that gets connected is not
as asked. -/
theorem asAsked_voice_iff {action : VoiceApp.Action} (tallied : Tallied k) (asked : AsAsked k)
    (held : k.held = true) (taken : k.step (.voice action) = some after) :
    AsAsked after ↔ restoresAll k (.voice action) = true := by
  have next := tallied_voice tallied taken
  obtain ⟨app, stepped, rfl⟩ := Option.map_eq_some_iff.mp taken
  obtain ⟨-, voice, moved, rfl⟩ := FocusApp.voice_step stepped
  have connected (cid : ConnectionId) : (voice.stateOf cid).connected = _ :=
    VoiceApp.connected_step moved cid
  have unsilenced (cid : ConnectionId) (live : (k.app.voice.stateOf cid).connected = true) :
      k.silence (.voice action) cid = false := by
    simp only [FocusHistory.silence, asked.unsilenced tallied live, Bool.false_and]
  constructor
  · intro after
    cases action with
    | event cid event =>
      cases event with
      | connected data =>
        by_contra silenced
        simp only [restoresAll, Bool.not_eq_true', Bool.not_eq_false, Bool.and_eq_true]
          at silenced
        obtain ⟨⟨-, hears⟩, silenced⟩ := silenced
        have live : (voice.stateOf cid).connected = true := by
          rw [connected cid]
          simp [VoiceApp.connectedAfter, hears]
        have quiet := after.unsilenced next live
        simp [FocusHistory.silence, VoiceApp.mutesTo, silenced] at quiet
      | _ => rfl
    | _ => rfl
  · intro restores
    refine ⟨fun cid live => next.asked_iff.mpr ?_, asked.volume⟩
    have reached := (connected cid).symm.trans live
    by_cases before : (k.app.voice.stateOf cid).connected = true
    · exact unsilenced cid before
    · cases action with
      | event other event =>
        cases event with
        | connected data =>
          simp only [VoiceApp.connectedAfter, before, Bool.false_or, Bool.and_eq_true,
            decide_eq_true_eq] at reached
          obtain ⟨rfl, hears⟩ := reached
          simpa [restoresAll, held, hears, FocusHistory.silence, VoiceApp.mutesTo] using restores
        | connectFailed | disconnected =>
          simp [VoiceApp.connectedAfter, before] at reached
        | _ => exact absurd reached before
      | cancelConnect => simp [VoiceApp.connectedAfter, before] at reached
      | _ => exact absurd reached before

theorem held_step_iff {action : FocusApp.Action} (tallied : Tallied k)
    (asked : k.held = true → AsAsked k) (taken : k.step action = some after) :
    (after.held = true → AsAsked after) ↔ restoresAll k action = true := by
  have following : after.held = k.hold action := by
    obtain ⟨app, -, rfl⟩ := Option.map_eq_some_iff.mp taken
    rfl
  rw [following]
  cases action with
  | onAudioFocusLost => simp [FocusHistory.hold, restoresAll]
  | onAudioFocusRegained =>
    rw [asAsked_regained_iff tallied asked taken]
    simp [FocusHistory.hold, restoresAll]
  | voice action =>
    simp only [FocusHistory.hold]
    cases held : k.held with
    | true =>
      rw [asAsked_voice_iff tallied (asked held) held taken]
      simp
    | false =>
      cases action with
      | event cid event => cases event <;> simp [restoresAll, held]
      | _ => simp [restoresAll]
  | setVolume volumeDb =>
    obtain rfl := Option.some.inj taken
    refine ⟨fun _ => rfl, fun _ held => ⟨(asked held).muted, rfl⟩⟩
  | restore =>
    obtain ⟨app, moved, rfl⟩ := Option.map_eq_some_iff.mp taken
    simp only [FocusApp.step, FocusApp.restore, Option.ite_none_right_eq_some,
      Option.some.injEq] at moved
    obtain ⟨-, rfl⟩ := moved
    refine ⟨fun _ => rfl, fun _ held => ⟨(asked held).muted, ?_⟩⟩
    have volume := (asked held).volume
    simp only [FocusHistory.choose, volume]

end Tallied

/-- One session, connected. -/
def oneServer : List FocusApp.Action :=
  [.restore, .voice (.openSession none), .voice (.event 1 (.connected ⟨some 5, "", 0, [], []⟩))]

/-- A call comes in, and the user has changed the volume before and mutes a second server. -/
def callTaken : List FocusApp.Action :=
  oneServer ++
    [.setVolume 3, .voice (.openSession none), .voice (.selectSession 1), .onAudioFocusLost,
      .voice (.setFullMute 2 true), .onAudioFocusLost, .onAudioFocusRegained]

/-- The user mutes everything while a call has the focus. -/
def mutedInCall : List FocusApp.Action :=
  oneServer ++ [.onAudioFocusLost, .voice (.setFullMuteAll true), .onAudioFocusRegained]

end Nek0.Guarantees
