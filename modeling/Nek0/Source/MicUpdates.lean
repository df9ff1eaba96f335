import Nek0.Source.VoiceTabs

/-!
# Calls of `_updateMicState`

Eight operations write a flag of a session and then let the microphone follow. What a
check asks of every such call is gathered here, with the rule that a property which the
checked update keeps is kept by all eight.
-/

namespace Nek0.Source.Voice

open Nek0.Library

/-- The service listens, or waits for the permission to do so. -/
def AudioService.capturing (v : AudioService) : Bool := v.listening || 0 < v.enabling

namespace VoiceApp

/-- `_toggleInputMute` up to the update. -/
def muteWritten (s : VoiceApp) (cid : ConnectionId) : VoiceApp :=
  let st := s.stateOf cid
  let newMuted := !st.inputMuted
  let s := if newMuted then s else s.modifyRt cid fun _ => ⟨false⟩
  let s := { s with engine := s.engine.setMuted cid newMuted st.outputMuted }
  s.setSession cid { st.copy with inputMuted := newMuted }

/-- `setFullMute` up to the update, where it changes something. -/
def fullMuteWritten (s : VoiceApp) (cid : ConnectionId) (muted : Bool) : VoiceApp :=
  let st := s.stateOf cid
  let s := { s with engine := s.engine.setMuted cid muted muted }
  s.setSession cid { st.copy with inputMuted := muted, outputMuted := muted }

/-- `togglePttMode` up to the update. -/
def pttModeWritten (s : VoiceApp) (cid : ConnectionId) : VoiceApp :=
  let st := s.stateOf cid
  let newPtt := !st.pttMode
  let s := { s with engine := s.engine.setVadEnabled cid !newPtt }
  let s := if newPtt then s else { s with engine := s.engine.setVadThreshold cid st.vadThreshold }
  s.setSession cid { st.copy with pttMode := newPtt }

/-- `setPttPressed` up to the update. -/
def pttPressedWritten (s : VoiceApp) (cid : ConnectionId) (pressed : Bool) : VoiceApp :=
  s.setSession cid { (s.stateOf cid).copy with pttPressed := pressed }

/-- The same microphone: the service, its subscriptions and what it has sent. -/
structure SameMic (s t : VoiceApp) : Prop where
  audioService : t.audioService = s.audioService
  micEnabled : t.micEnabled = s.micEnabled
  orphaned : t.orphaned = s.orphaned
  stray : t.stray = s.stray
  sent : t.sent = s.sent

theorem SameMic.refl {s : VoiceApp} : SameMic s s := ⟨rfl, rfl, rfl, rfl, rfl⟩

theorem SameMic.trans {s t u : VoiceApp} (first : SameMic s t) (second : SameMic t u) :
    SameMic s u :=
  ⟨second.audioService.trans first.audioService, second.micEnabled.trans first.micEnabled,
    second.orphaned.trans first.orphaned, second.stray.trans first.stray,
    second.sent.trans first.sent⟩

/-- Flags of one session are written, and nothing else that the microphone depends on. -/
structure Flagged (s r : VoiceApp) : Prop where
  tabs : SameTabs s r
  mic : SameMic s r
  connected : Keeps (·.connected) s r
  encoders : EngineKeeps (·.audioEncoder) s r

section Flagged

variable {s t u : VoiceApp} {cid : ConnectionId}

theorem Flagged.trans (first : Flagged s t) (second : Flagged t u) : Flagged s u :=
  ⟨first.tabs.trans second.tabs, first.mic.trans second.mic,
    first.connected.trans second.connected, first.encoders.trans second.encoders⟩

theorem flagged_modifyRt {change : SessionRuntime → SessionRuntime} :
    Flagged s (s.modifyRt cid change) :=
  ⟨sameTabs_modifyRt, ⟨rfl, rfl, rfl, rfl, rfl⟩, keeps_modifyRt, .refl⟩

theorem flagged_write {next : TsConnectionState} {engine : VoiceEngine}
    {change : TsConnection → TsConnection} (set : engine = s.engine.modify cid change)
    (live : next.connected = (s.stateOf cid).connected)
    (encoder : ∀ c, (change c).audioEncoder = c.audioEncoder) :
    Flagged s (({ s with engine := engine }).setSession cid next) := by
  subst set
  exact ⟨sameTabs_write rfl, ⟨rfl, rfl, rfl, rfl, rfl⟩, keeps_setSession live,
    engineKeeps_modify encoder rfl⟩

theorem encoder_setMuted (input output : Bool) (c : TsConnection) :
    (TsConnection.setMuted input output c).audioEncoder = c.audioEncoder := by
  simp only [TsConnection.setMuted]
  split <;> rfl

theorem flagged_muteWritten : Flagged s (s.muteWritten cid) := by
  simp only [muteWritten]
  split
  · exact flagged_write rfl rfl (encoder_setMuted _ _)
  · exact flagged_modifyRt.trans (flagged_write rfl rfl (encoder_setMuted _ _))

theorem flagged_fullMuteWritten {muted : Bool} : Flagged s (s.fullMuteWritten cid muted) :=
  flagged_write rfl rfl (encoder_setMuted _ _)

theorem flagged_pttModeWritten : Flagged s (s.pttModeWritten cid) := by
  simp only [pttModeWritten]
  split
  · exact flagged_write rfl rfl fun _ => rfl
  · exact flagged_write (s := s) (VoiceEngine.modify_modify ..) rfl fun _ => rfl

theorem flagged_pttPressedWritten {pressed : Bool} :
    Flagged s (s.pttPressedWritten cid pressed) :=
  ⟨sameTabs_setSession, ⟨rfl, rfl, rfl, rfl, rfl⟩, keeps_setSession rfl, .refl⟩

end Flagged

section Checks

variable (check : VoiceApp → Bool)

def checksFullMute (muted : Bool) (s : VoiceApp) (cid : ConnectionId) : Bool :=
  ((s.stateOf cid).inputMuted = muted && (s.stateOf cid).outputMuted = muted) ||
    check (s.fullMuteWritten cid muted)

/-- Each session of the list is muted in the state that the ones before it leave. -/
def checksFullMuteAll (muted : Bool) : VoiceApp → List ConnectionId → Bool
  | _, [] => true
  | s, cid :: cids =>
    if (s.stateOf cid).connected then
      checksFullMute check muted s cid && checksFullMuteAll muted (s.setFullMute cid muted) cids
    else checksFullMuteAll muted s cids

/-- The check holds at every call of `_updateMicState` that the action makes. -/
def checksUpdates (s : VoiceApp) : Action → Bool
  | .toggleInputMute cid => check (s.muteWritten cid)
  | .setFullMute cid muted => checksFullMute check muted s cid
  | .setFullMuteAll muted => checksFullMuteAll check muted s s.order
  | .togglePttMode cid => check (s.pttModeWritten cid)
  | .setPttPressed cid pressed => check (s.pttPressedWritten cid pressed)
  | .onAudioFocusLost => s.selectedId.all fun cid =>
    !(s.stateOf cid).connected || (s.stateOf cid).inputMuted ||
      check ((s.modifyRt cid fun _ => ⟨true⟩).muteWritten cid)
  | .onAudioFocusRegained => s.selectedId.all fun cid =>
    !(s.rt.find cid).any (·.mutedByFocusLoss) || !(s.stateOf cid).connected ||
      !(s.stateOf cid).inputMuted || check ((s.modifyRt cid fun _ => ⟨false⟩).muteWritten cid)
  | .notificationMute inputMuted => s.selectedId.all fun cid =>
    (s.sessions.find cid).map (·.inputMuted) = some inputMuted || check (s.muteWritten cid)
  | _ => true

end Checks

/-- The operations that call `_updateMicState`. -/
def Action.updatesMic : Action → Bool
  | .toggleInputMute _ | .setFullMute _ _ | .setFullMuteAll _ | .togglePttMode _
  | .setPttPressed _ _ | .onAudioFocusLost | .onAudioFocusRegained | .notificationMute _ => true
  | _ => false

section Rule

variable {P : VoiceApp → Prop} {check : VoiceApp → Bool}
  (update : ∀ s r, P s → Flagged s r → check r = true → P r.updateMicState)

include update

theorem setFullMute_rule {s : VoiceApp} {cid : ConnectionId} {muted : Bool} (held : P s)
    (checked : checksFullMute check muted s cid = true) : P (s.setFullMute cid muted) := by
  simp only [checksFullMute, Bool.or_eq_true, Bool.and_eq_true, decide_eq_true_eq] at checked
  simp only [setFullMute]
  split
  · exact held
  · rename_i changes
    exact update s _ held flagged_fullMuteWritten (checked.resolve_left changes)

theorem setFullMuteAll_rule {s : VoiceApp} {muted : Bool} {cids : List ConnectionId} (held : P s)
    (checked : checksFullMuteAll check muted s cids = true) :
    P (cids.foldl
      (fun s cid => if (s.stateOf cid).connected then s.setFullMute cid muted else s) s) := by
  induction cids generalizing s with
  | nil => exact held
  | cons cid cids ih =>
    simp only [checksFullMuteAll] at checked
    rw [List.foldl_cons]
    split
    · rename_i connected
      rw [if_pos connected, Bool.and_eq_true] at checked
      exact ih (setFullMute_rule update held checked.1) checked.2
    · rename_i offline
      rw [if_neg offline] at checked
      exact ih held checked

/-- What the checked update keeps, every operation keeps that calls it. -/
theorem updates_rule {s t : VoiceApp} {action : Action}
    (mark : ∀ s cid change, P s → P (modifyRt s cid change)) (held : P s)
    (updates : action.updatesMic = true) (checked : checksUpdates check s action = true)
    (taken : s.step action = some t) : P t := by
  have toggled {s : VoiceApp} {cid : ConnectionId} (held : P s)
      (checked : check (s.muteWritten cid) = true) : P (s.toggleInputMute cid) :=
    update s _ held flagged_muteWritten checked
  cases action with
  | toggleInputMute cid => cases taken; exact toggled held checked
  | setFullMute cid muted => cases taken; exact setFullMute_rule update held checked
  | setFullMuteAll muted => cases taken; exact setFullMuteAll_rule update held checked
  | togglePttMode cid => cases taken; exact update s _ held flagged_pttModeWritten checked
  | setPttPressed cid pressed =>
    cases taken
    exact update s _ held flagged_pttPressedWritten checked
  | onAudioFocusLost =>
    cases taken
    simp only [onAudioFocusLost]
    split
    · exact held
    · rename_i cid selected
      simp only [checksUpdates, selected, Option.all_some, Bool.or_eq_true,
        Bool.not_eq_true'] at checked
      split
      · rename_i muting
        simp only [Bool.and_eq_true, Bool.not_eq_true'] at muting
        simp only [muting.1, muting.2, Bool.true_eq_false, Bool.false_eq_true, false_or] at checked
        exact toggled (mark _ _ _ held) checked
      · exact held
  | onAudioFocusRegained =>
    cases taken
    simp only [onAudioFocusRegained]
    split
    · exact held
    · rename_i cid selected
      simp only [checksUpdates, selected, Option.all_some, Bool.or_eq_true,
        Bool.not_eq_true'] at checked
      split
      · rename_i marked
        split
        · exact mark _ _ _ held
        · rename_i unmuting
          simp only [stateOf_modifyRt, Bool.or_eq_true, Bool.not_eq_true', not_or,
            Bool.not_eq_false] at unmuting
          simp only [marked, unmuting.1, unmuting.2, Bool.true_eq_false, false_or] at checked
          exact toggled (mark _ _ _ held) checked
      · exact held
  | notificationMute muted =>
    cases taken
    simp only [notificationMute]
    split
    · exact held
    · rename_i cid selected
      simp only [checksUpdates, selected, Option.all_some, Bool.or_eq_true,
        decide_eq_true_eq] at checked
      split
      · exact held
      · rename_i changes
        exact toggled held (checked.resolve_left changes)
  | _ => cases updates

end Rule

/-- The operations that leave the microphone alone. -/
def Action.sparesMic : Action → Bool
  | .disconnect _ | .event _ (.connected _) | .event _ (.disconnected ..)
  | .permissionAnswered _ | .orphanAnswered _ | .handleMicData => false
  | action => !action.updatesMic

section SameMic

variable {s : VoiceApp} {cid : ConnectionId}

theorem sameMic_writeAll (write : TsConnectionState → TsConnectionState)
    (cids : List ConnectionId) :
    SameMic s (cids.foldl (fun s cid => s.setSession cid (write (s.stateOf cid))) s) := by
  induction cids generalizing s with
  | nil => exact .refl
  | cons cid cids ih =>
    have written : SameMic s (s.setSession cid (write (s.stateOf cid))) :=
      ⟨rfl, rfl, rfl, rfl, rfl⟩
    exact written.trans ih

theorem sameMic_setWhisperTargets {clientIds channelIds : List Int} :
    SameMic s (s.setWhisperTargets cid clientIds channelIds) := by
  simp only [setWhisperTargets]
  split <;> exact ⟨rfl, rfl, rfl, rfl, rfl⟩

theorem sameMic_pruneWhisperTargets : SameMic s (s.pruneWhisperTargets cid) := by
  simp only [pruneWhisperTargets]
  repeat' split
  · exact .refl
  · exact .refl
  · exact sameMic_setWhisperTargets

theorem sameMic_reconcileRoster {clients : List TsClient} :
    SameMic s (s.reconcileRoster cid clients) := by
  simp only [reconcileRoster]
  split
  · refine SameMic.trans ?_ sameMic_pruneWhisperTargets
    exact ⟨rfl, rfl, rfl, rfl, rfl⟩
  · exact sameMic_pruneWhisperTargets

theorem sameMic_handleEvent {event : TsEngineEvent}
    (spares : (Action.event cid event).sparesMic = true) :
    SameMic s (s.handleEvent cid event) := by
  simp only [handleEvent]
  split
  · exact .refl
  · cases event with
    | connected | disconnected => cases spares
    | connectFailed | error | clientJoined | clientLeft => exact ⟨rfl, rfl, rfl, rfl, rfl⟩
    | channelsUpdated =>
      dsimp only
      split <;> exact ⟨rfl, rfl, rfl, rfl, rfl⟩
    | other notice => cases notice <;> exact ⟨rfl, rfl, rfl, rfl, rfl⟩

theorem sameMic_step {t : VoiceApp} {action : Action} (spares : action.sparesMic = true)
    (taken : s.step action = some t) : SameMic s t := by
  cases action with
  | disconnect | permissionAnswered | orphanAnswered | handleMicData => cases spares
  | toggleInputMute | setFullMute | setFullMuteAll | togglePttMode | setPttPressed
  | onAudioFocusLost | onAudioFocusRegained | notificationMute => cases spares
  | loadAudioPreferences audio =>
    cases taken
    exact sameMic_writeAll (fun st => { st.copy with audio := audio }) _
  | loadHistoryPreferences history =>
    cases taken
    exact sameMic_writeAll (fun st => { st.copy with history := history }) _
  | resumeMuted =>
    cases taken
    exact sameMic_writeAll (fun st => { st.copy with inputMuted := true }) _
  | event => cases taken; exact sameMic_handleEvent spares
  | reconcileRoster => cases taken; exact sameMic_reconcileRoster
  | setWhisperTargets => cases taken; exact sameMic_setWhisperTargets
  | openSession savedMicGain =>
    cases taken
    cases savedMicGain <;> exact ⟨rfl, rfl, rfl, rfl, rfl⟩
  | selectSession =>
    cases taken
    simp only [selectSession]
    split <;> exact ⟨rfl, rfl, rfl, rfl, rfl⟩
  | setWhisperActive =>
    cases taken
    simp only [VoiceApp.setWhisperActive]
    repeat' split
    all_goals exact ⟨rfl, rfl, rfl, rfl, rfl⟩
  | toggleWhisperAllowedUid =>
    cases taken
    simp only [toggleWhisperAllowedUid]
    split <;> exact ⟨rfl, rfl, rfl, rfl, rfl⟩
  | _ => cases taken; exact ⟨rfl, rfl, rfl, rfl, rfl⟩

end SameMic

end VoiceApp

end Nek0.Source.Voice
