import Nek0.Source.MicUpdates
import Nek0.Source.MuteEffects

/-!
# Sessions the engine has given out

Nothing is connected, held by the engine or captured under a connection id that the engine has
not given out yet.
-/

namespace Nek0.Source.Voice

open Nek0.Library

namespace VoiceApp

/-- The view that shows only which sessions the engine has. -/
def presence (_ : TsConnection) : Unit := ()

section Presence

variable {s t : VoiceApp} {cid : ConnectionId}

theorem blind_presence : EncoderBlind presence := ⟨fun _ _ => rfl⟩

theorem deaf_presence : Deaf presence := ⟨blind_presence, fun _ _ _ => rfl⟩

theorem EngineKeeps.isSome (keeps : EngineKeeps presence s t) (cid : ConnectionId) :
    (t.engine.sessions cid).isSome = (s.engine.sessions cid).isSome := by
  have same := congrArg Option.isSome (keeps cid)
  simpa only [Option.isSome_map] using same

theorem presence_of_wiring (keeps : EngineKeeps wiring s t) : EngineKeeps presence s t :=
  engineKeeps_of_wiring keeps fun _ => ()

/-- Only a connect adds a session to the engine. -/
theorem presence_step {action : Action} (taken : s.step action = some t)
    (stays : ∀ savedMicGain, action ≠ .openSession savedMicGain)
    (held : (t.engine.sessions cid).isSome = true) : (s.engine.sessions cid).isSome = true := by
  have kept (keeps : EngineKeeps presence s t) : (s.engine.sessions cid).isSome = true :=
    (keeps.isSome cid).symm.trans held
  cases action with
  | openSession gain => exact absurd rfl (stays gain)
  | engineRemoved other =>
    cases taken
    simp only [VoiceEngine.remove, Function.update_apply] at held
    split at held
    · cases held
    · exact held
  | engineConnected =>
    cases taken
    exact kept (engineKeeps_modify (by intro _; rfl) rfl)
  | toggleInputMute => cases taken; exact kept (engineKeeps_toggleInputMute deaf_presence)
  | setFullMute => cases taken; exact kept (engineKeeps_setFullMute deaf_presence)
  | setFullMuteAll => cases taken; exact kept (engineKeeps_setFullMuteAll deaf_presence)
  | toggleOutputMute => cases taken; exact kept (engineKeeps_toggleOutputMute deaf_presence)
  | onAudioFocusLost => cases taken; exact kept (engineKeeps_onAudioFocusLost deaf_presence)
  | onAudioFocusRegained =>
    cases taken
    exact kept (engineKeeps_onAudioFocusRegained deaf_presence)
  | notificationMute => cases taken; exact kept (engineKeeps_notificationMute deaf_presence)
  | togglePttMode =>
    cases taken
    refine kept (EngineKeeps.trans ?_ (engineKeeps_updateMicState blind_presence))
    split
    · exact engineKeeps_modify (by intro _; rfl) rfl
    · exact engineKeeps_modify (by intro _; rfl) (VoiceEngine.modify_modify ..)
  | setPttPressed => cases taken; exact kept (engineKeeps_setPttPressed blind_presence)
  | disconnect => cases taken; exact kept (engineKeeps_disconnect blind_presence)
  | event => cases taken; exact kept (engineKeeps_handleEvent blind_presence)
  | loadAudioPreferences => cases taken; exact kept engineKeeps_loadAudioPreferences
  | loadHistoryPreferences => cases taken; exact kept engineKeeps_loadHistoryPreferences
  | resumeMuted => cases taken; exact kept engineKeeps_resumeMuted
  | permissionAnswered => exact kept (engineKeeps_permissionAnswered taken)
  | orphanAnswered => exact kept (engineKeeps_orphanAnswered taken)
  | handleMicData => cases taken; exact kept engineKeeps_handleMicData
  | selectSession =>
    cases taken
    refine kept (engineKeeps_of_engine ?_)
    rw [selectSession]
    split <;> rfl
  | cancelConnect | retry => cases taken; exact held
  | setVadThreshold => cases taken; exact kept (presence_of_wiring wiring_setVadThreshold)
  | setVadEnabled => cases taken; exact kept (presence_of_wiring wiring_setVadEnabled)
  | setMicGain => cases taken; exact kept (presence_of_wiring wiring_setMicGain)
  | applyWhisperPreferences =>
    cases taken
    exact kept (presence_of_wiring wiring_applyWhisperPreferences)
  | setWhisperTargets => cases taken; exact kept (presence_of_wiring wiring_setWhisperTargetsCall)
  | setWhisperActive => cases taken; exact kept (presence_of_wiring wiring_setWhisperActive)
  | setWhisperAllowlistEnabled =>
    cases taken
    exact kept (presence_of_wiring wiring_setWhisperAllowlistEnabled)
  | toggleWhisperAllowedUid =>
    cases taken
    exact kept (presence_of_wiring wiring_toggleWhisperAllowedUid)
  | reconcileRoster => cases taken; exact kept (presence_of_wiring wiring_reconcileRoster)

theorem presence_openSession {savedMicGain : Option ℚ} :
    ((s.openSession savedMicGain).engine.sessions cid).isSome =
      (decide (cid = s.engine.nextConnectionId) || (s.engine.sessions cid).isSome) := by
  by_cases here : cid = s.engine.nextConnectionId
  · cases savedMicGain <;>
      simp [openSession, VoiceEngine.connect, VoiceApp.setMicGain, VoiceEngine.setMicGain,
        VoiceEngine.modify, here]
  · cases savedMicGain <;>
      simp [openSession, VoiceEngine.connect, VoiceApp.setMicGain, VoiceEngine.setMicGain,
        VoiceEngine.modify, here]

end Presence

section Sent

variable {s t : VoiceApp} {cid : ConnectionId}

@[simp] theorem startAudioService_sent : s.startAudioService.sent = s.sent := by
  rw [startAudioService]
  split <;> rfl

@[simp] theorem stopAudioService_sent : s.stopAudioService.sent = s.sent := by
  simp only [stopAudioService]
  repeat' split
  all_goals rfl

@[simp] theorem updateMicState_sent : s.updateMicState.sent = s.sent := by
  simp only [updateMicState]
  repeat' split
  all_goals simp

theorem checksUpdates_true (action : Action) : checksUpdates (fun _ => true) s action = true := by
  have each (muted : Bool) (cids : List ConnectionId) (s : VoiceApp) :
      checksFullMuteAll (fun _ => true) muted s cids = true := by
    induction cids generalizing s with
    | nil => rfl
    | cons cid cids ih => simp [checksFullMuteAll, checksFullMute, ih]
  cases action with
  | setFullMuteAll => exact each ..
  | onAudioFocusLost | onAudioFocusRegained | notificationMute => simp [checksUpdates]
  | setFullMute => simp [checksUpdates, checksFullMute]
  | _ => rfl

@[simp] theorem disconnect_sent : (s.disconnect cid).sent = s.sent := by
  simp only [disconnect]
  repeat' split
  all_goals simp

theorem handleEvent_sent {event : TsEngineEvent} : (s.handleEvent cid event).sent = s.sent := by
  simp only [handleEvent]
  split
  · rfl
  · cases event with
    | connected data =>
      simp only [handleConnected, hydrateServerMessages]
      repeat' split
      all_goals simp
    | disconnected =>
      simp only [handleDisconnected]
      repeat' split
      all_goals simp
    | connectFailed | error | clientJoined | clientLeft => rfl
    | channelsUpdated =>
      dsimp only
      split <;> rfl
    | other notice => cases notice <;> rfl

/-- Only a frame of the microphone is sent. -/
theorem sent_step {action : Action} (taken : s.step action = some t)
    (silent : action ≠ .handleMicData) : t.sent = s.sent := by
  cases updates : action.updatesMic with
  | true =>
    refine updates_rule (P := fun r => r.sent = s.sent) (fun r u sent flagged _ => ?_)
      (fun _ _ _ => id) rfl updates (checksUpdates_true action) taken
    rw [updateMicState_sent, flagged.mic.sent, sent]
  | false =>
    cases spares : action.sparesMic with
    | true => exact (sameMic_step spares taken).sent
    | false =>
      cases action with
      | disconnect => cases taken; exact disconnect_sent
      | event => cases taken; exact handleEvent_sent
      | permissionAnswered granted =>
        obtain ⟨v, -, -, rfl⟩ := permissionAnswered_cases taken
        rfl
      | orphanAnswered granted =>
        obtain ⟨-, rfl⟩ := orphanAnswered_cases taken
        rfl
      | handleMicData => exact absurd rfl silent
      | _ => simp [Action.sparesMic, updates] at spares

/-- A frame is captured for a session that the engine has. -/
theorem mem_handleMicData_sent {frame : SentFrame} (captured : frame ∈ s.handleMicData.sent) :
    frame ∈ s.sent ∨ (s.engine.sessions frame.connectionId).isSome = true ∧
      frame.inputMuted = (s.stateOf frame.connectionId).inputMuted := by
  simp only [handleMicData] at captured
  split at captured
  · exact .inl captured
  · rename_i v service
    split at captured
    · rename_i sends
      simp only [Bool.and_eq_true, VoiceEngine.sendsAudio] at sends
      simp only [List.mem_append, List.mem_singleton] at captured
      refine captured.imp_right ?_
      rintro rfl
      exact ⟨Option.isSome_of_any sends.2, rfl⟩
    · exact .inl captured

end Sent

/-- Every id in use was given out by the engine. -/
structure Issued (s : VoiceApp) : Prop where
  registered : Registered s
  positive : 0 < s.engine.nextConnectionId
  present : ∀ cid, (s.engine.sessions cid).isSome = true → cid < s.engine.nextConnectionId
  connected : ∀ cid, (s.stateOf cid).connected = true → cid < s.engine.nextConnectionId
  sent : ∀ frame ∈ s.sent, frame.connectionId < s.engine.nextConnectionId

theorem issued_build : Issued build where
  registered := registered_build
  positive := Nat.zero_lt_one
  present _ held := by cases held
  connected _ connected := by cases connected
  sent _ sent := by cases sent

section Issued

variable {s t : VoiceApp}

/-- The engine gives out its ids in order. -/
theorem nextConnectionId_step {action : Action} (taken : s.step action = some t) :
    s.engine.nextConnectionId ≤ t.engine.nextConnectionId := by
  cases moves : action.movesTabs with
  | false => exact (sameTabs_step moves taken).next.ge
  | true =>
    cases action with
    | openSession =>
      cases taken
      rw [openSession_next]
      exact Nat.le_succ _
    | cancelConnect => cases taken; exact Nat.le_refl _
    | selectSession =>
      cases taken
      rw [selectSession]
      split <;> exact Nat.le_refl _
    | _ => cases moves

theorem Issued.hears_lt (issued : Issued s) {cid : ConnectionId} (heard : s.hears cid = true) :
    cid < s.engine.nextConnectionId := by
  simp only [hears, Bool.or_eq_true, decide_eq_true_eq] at heard
  rcases heard with rfl | known
  · exact issued.positive
  · exact issued.registered.issued cid ((s.rt.mem_keys cid).mpr known)

theorem connectedAfter_of {cid : ConnectionId} {action : Action}
    (reached : s.connectedAfter cid action = true) :
    (s.stateOf cid).connected = true ∨ s.hears cid = true := by
  cases action with
  | event other event =>
    cases event with
    | connected =>
      simp only [connectedAfter, Bool.or_eq_true, Bool.and_eq_true] at reached
      exact reached.imp_right fun both => both.2
    | connectFailed | disconnected =>
      simp only [connectedAfter, Bool.and_eq_true] at reached
      exact .inl reached.1
    | _ => exact .inl reached
  | cancelConnect =>
    simp only [connectedAfter, Bool.and_eq_true] at reached
    exact .inl reached.2
  | _ => exact .inl reached

theorem issued_step {action : Action} (issued : Issued s) (taken : s.step action = some t) :
    Issued t := by
  have later := nextConnectionId_step taken
  refine ⟨registered_step issued.registered taken, Nat.lt_of_lt_of_le issued.positive later,
    fun cid held => ?_, fun cid connected => ?_, fun frame sent => ?_⟩
  · by_cases opens : ∃ savedMicGain, action = .openSession savedMicGain
    · obtain ⟨savedMicGain, rfl⟩ := opens
      cases taken
      rw [presence_openSession, Bool.or_eq_true, decide_eq_true_eq] at held
      rw [openSession_next]
      rcases held with rfl | held
      · exact Nat.lt_succ_self _
      · exact Nat.lt_succ_of_lt (issued.present cid held)
    · rw [not_exists] at opens
      exact Nat.lt_of_lt_of_le (issued.present cid (presence_step taken opens held)) later
  · rw [connected_step taken] at connected
    refine Nat.lt_of_lt_of_le ?_ later
    exact (connectedAfter_of connected).elim (issued.connected cid) issued.hears_lt
  · refine Nat.lt_of_lt_of_le ?_ later
    by_cases captures : action = .handleMicData
    · subst captures
      cases taken
      exact (mem_handleMicData_sent sent).elim (issued.sent frame) fun fresh =>
        issued.present _ fresh.1
    · rw [sent_step taken captures] at sent
      exact issued.sent frame sent

end Issued

end VoiceApp

end Nek0.Source.Voice
