import Nek0.Source.VoiceEffects

/-!
# Sessions opened, given up and selected

Only a connect, the end of an attempt and a choice of the user change which sessions the
app has and which one is selected. Every other operation keeps them, so it keeps the
session of the microphone too.
-/

namespace Nek0.Source.Voice

open Nek0.Library

namespace VoiceApp

/-- The same sessions with the same one selected; a write may list a further one. -/
structure SameTabs (s t : VoiceApp) : Prop where
  selected : t.selectedId = s.selectedId
  keys : t.rt.keys = s.rt.keys
  next : t.engine.nextConnectionId = s.engine.nextConnectionId
  order : s.order ⊆ t.order

section SameTabs

variable {s t u : VoiceApp} {cid : ConnectionId}

theorem SameTabs.refl : SameTabs s s := ⟨rfl, rfl, rfl, fun _ => id⟩

theorem SameTabs.trans (first : SameTabs s t) (second : SameTabs t u) : SameTabs s u :=
  ⟨second.selected.trans first.selected, second.keys.trans first.keys,
    second.next.trans first.next, fun _ listed => second.order (first.order listed)⟩

theorem SameTabs.micConnectionId (same : SameTabs s t) :
    t.micConnectionId = s.micConnectionId := by
  simp only [VoiceApp.micConnectionId, same.selected, same.keys]

theorem SameTabs.known (same : SameTabs s t) (cid : ConnectionId) :
    (t.rt.find cid).isSome = (s.rt.find cid).isSome := by
  rw [Bool.eq_iff_iff, ← t.rt.mem_keys, ← s.rt.mem_keys, same.keys]

theorem sameTabs_setSession {next : TsConnectionState} : SameTabs s (s.setSession cid next) := by
  refine ⟨rfl, rfl, rfl, fun other listed => ?_⟩
  simp only [setSession]
  split
  · exact listed
  · exact List.mem_append_left _ listed

theorem sameTabs_modifyRt {change : SessionRuntime → SessionRuntime} :
    SameTabs s (s.modifyRt cid change) :=
  ⟨rfl, LinkedMap.keys_modify .., rfl, fun _ => id⟩

theorem sameTabs_engine {engine : VoiceEngine}
    (next : engine.nextConnectionId = s.engine.nextConnectionId) :
    SameTabs s { s with engine := engine } :=
  ⟨rfl, rfl, next, fun _ => id⟩

/-- An engine call, then a write. -/
theorem sameTabs_write {next : TsConnectionState} {engine : VoiceEngine}
    (same : engine.nextConnectionId = s.engine.nextConnectionId) :
    SameTabs s (({ s with engine := engine }).setSession cid next) :=
  (sameTabs_engine same).trans sameTabs_setSession

theorem sameTabs_foldl {f : VoiceApp → ConnectionId → VoiceApp} (cids : List ConnectionId)
    (each : ∀ s cid, SameTabs s (f s cid)) : SameTabs s (cids.foldl f s) := by
  induction cids generalizing s with
  | nil => exact .refl
  | cons cid cids ih => exact (each s cid).trans ih

theorem sameTabs_startAudioService : SameTabs s s.startAudioService := by
  simp only [startAudioService]
  split
  · exact .refl
  · exact ⟨rfl, rfl, rfl, fun _ => id⟩

theorem sameTabs_stopAudioService : SameTabs s s.stopAudioService := by
  simp only [stopAudioService]
  repeat' split
  all_goals exact ⟨rfl, rfl, rfl, fun _ => id⟩

theorem sameTabs_updateMicState : SameTabs s s.updateMicState := by
  simp only [updateMicState]
  repeat' split
  · exact sameTabs_startAudioService
  all_goals exact ⟨rfl, rfl, rfl, fun _ => id⟩

theorem sameTabs_toggleInputMute : SameTabs s (s.toggleInputMute cid) := by
  refine SameTabs.trans ?_ sameTabs_updateMicState
  split
  · exact sameTabs_write rfl
  · exact sameTabs_modifyRt.trans (sameTabs_write rfl)

theorem sameTabs_setFullMute {muted : Bool} : SameTabs s (s.setFullMute cid muted) := by
  simp only [setFullMute]
  split
  · exact .refl
  · refine SameTabs.trans ?_ sameTabs_updateMicState
    exact sameTabs_write rfl

theorem sameTabs_setFullMuteAll {muted : Bool} : SameTabs s (s.setFullMuteAll muted) := by
  refine sameTabs_foldl _ fun s cid => ?_
  split
  · exact sameTabs_setFullMute
  · exact .refl

theorem sameTabs_togglePttMode : SameTabs s (s.togglePttMode cid) := by
  refine SameTabs.trans ?_ sameTabs_updateMicState
  split <;> exact sameTabs_write rfl

theorem sameTabs_disconnect : SameTabs s (s.disconnect cid) := by
  simp only [disconnect]
  repeat' split
  · exact sameTabs_setSession
  · exact (sameTabs_setSession.trans sameTabs_stopAudioService).trans sameTabs_setSession
  · exact sameTabs_setSession.trans sameTabs_setSession

theorem sameTabs_setWhisperTargets {clientIds channelIds : List Int} :
    SameTabs s (s.setWhisperTargets cid clientIds channelIds) := by
  simp only [setWhisperTargets]
  split <;> exact sameTabs_write rfl

theorem sameTabs_setWhisperActive {active : Bool} :
    SameTabs s (s.setWhisperActive cid active) := by
  simp only [setWhisperActive]
  repeat' split
  · exact sameTabs_setSession
  · exact sameTabs_engine rfl
  · exact sameTabs_write rfl

theorem sameTabs_toggleWhisperAllowedUid {uid : String} :
    SameTabs s (s.toggleWhisperAllowedUid cid uid) := by
  simp only [toggleWhisperAllowedUid]
  split
  · exact .refl
  · exact sameTabs_write rfl

theorem sameTabs_pruneWhisperTargets : SameTabs s (s.pruneWhisperTargets cid) := by
  simp only [pruneWhisperTargets]
  repeat' split
  · exact .refl
  · exact .refl
  · exact sameTabs_setWhisperTargets

theorem sameTabs_reconcileRoster {clients : List TsClient} :
    SameTabs s (s.reconcileRoster cid clients) := by
  simp only [reconcileRoster]
  split
  · exact sameTabs_setSession.trans sameTabs_pruneWhisperTargets
  · exact sameTabs_pruneWhisperTargets

theorem sameTabs_onAudioFocusLost : SameTabs s s.onAudioFocusLost := by
  simp only [onAudioFocusLost]
  repeat' split
  · exact .refl
  · exact sameTabs_modifyRt.trans sameTabs_toggleInputMute
  · exact .refl

theorem sameTabs_onAudioFocusRegained : SameTabs s s.onAudioFocusRegained := by
  simp only [onAudioFocusRegained]
  repeat' split
  · exact .refl
  · exact sameTabs_modifyRt
  · exact sameTabs_modifyRt.trans sameTabs_toggleInputMute
  · exact .refl

theorem sameTabs_notificationMute {inputMuted : Bool} :
    SameTabs s (s.notificationMute inputMuted) := by
  simp only [notificationMute]
  repeat' split
  · exact .refl
  · exact .refl
  · exact sameTabs_toggleInputMute

theorem sameTabs_hydrateServerMessages {data : ConnectedEvent} :
    SameTabs s (s.hydrateServerMessages cid data) := by
  simp only [hydrateServerMessages]
  repeat' split
  · exact sameTabs_setSession.trans sameTabs_disconnect
  · exact sameTabs_setSession
  · exact .refl

theorem sameTabs_handleConnected {data : ConnectedEvent} :
    SameTabs s (s.handleConnected cid data) := by
  simp only [handleConnected]
  split
  · exact (sameTabs_setSession.trans sameTabs_hydrateServerMessages).trans
      sameTabs_startAudioService
  · exact sameTabs_setSession.trans sameTabs_hydrateServerMessages

theorem sameTabs_handleDisconnected {expected : Bool} {reason : String} {retried : Bool} :
    SameTabs s (s.handleDisconnected cid expected reason retried) := by
  simp only [handleDisconnected]
  repeat' split
  · exact .refl
  · exact sameTabs_stopAudioService.trans sameTabs_setSession
  · exact sameTabs_stopAudioService

theorem sameTabs_handleEvent {event : TsEngineEvent} : SameTabs s (s.handleEvent cid event) := by
  simp only [handleEvent]
  split
  · exact .refl
  · cases event with
    | connected => exact sameTabs_handleConnected
    | disconnected => exact sameTabs_handleDisconnected
    | connectFailed | error | clientJoined | clientLeft => exact sameTabs_setSession
    | channelsUpdated =>
      dsimp only
      split
      · exact sameTabs_setSession
      · exact .refl
    | other notice =>
      cases notice with
      | none => exact .refl
      | some notice => exact sameTabs_setSession

theorem sameTabs_permissionAnswered {granted : Bool}
    (answered : s.permissionAnswered granted = some t) : SameTabs s t := by
  obtain ⟨v, -, -, rfl⟩ := permissionAnswered_cases answered
  exact ⟨rfl, rfl, rfl, fun _ => id⟩

theorem sameTabs_orphanAnswered {granted : Bool}
    (answered : s.orphanAnswered granted = some t) : SameTabs s t := by
  obtain ⟨-, rfl⟩ := orphanAnswered_cases answered
  exact ⟨rfl, rfl, rfl, fun _ => id⟩

theorem sameTabs_handleMicData : SameTabs s s.handleMicData := by
  simp only [handleMicData]
  repeat' split
  all_goals exact ⟨rfl, rfl, rfl, fun _ => id⟩

end SameTabs

/-- The operations that open, give up or select a session. -/
def Action.movesTabs : Action → Bool
  | .openSession _ => true
  | .cancelConnect _ => true
  | .selectSession _ => true
  | _ => false

theorem sameTabs_step {s t : VoiceApp} {action : Action} (still : action.movesTabs = false)
    (taken : s.step action = some t) : SameTabs s t := by
  cases action with
  | openSession | cancelConnect | selectSession => cases still
  | permissionAnswered => exact sameTabs_permissionAnswered taken
  | orphanAnswered => exact sameTabs_orphanAnswered taken
  | loadAudioPreferences | loadHistoryPreferences | resumeMuted =>
    cases taken
    exact sameTabs_foldl _ fun _ _ => sameTabs_setSession
  | disconnect => cases taken; exact sameTabs_disconnect
  | retry => cases taken; exact sameTabs_setSession
  | toggleInputMute => cases taken; exact sameTabs_toggleInputMute
  | setFullMute => cases taken; exact sameTabs_setFullMute
  | setFullMuteAll => cases taken; exact sameTabs_setFullMuteAll
  | togglePttMode => cases taken; exact sameTabs_togglePttMode
  | setPttPressed => cases taken; exact sameTabs_setSession.trans sameTabs_updateMicState
  | toggleOutputMute | setVadThreshold | setVadEnabled | setMicGain | applyWhisperPreferences
  | setWhisperAllowlistEnabled =>
    cases taken
    exact sameTabs_write rfl
  | setWhisperTargets => cases taken; exact sameTabs_setWhisperTargets
  | setWhisperActive => cases taken; exact sameTabs_setWhisperActive
  | toggleWhisperAllowedUid => cases taken; exact sameTabs_toggleWhisperAllowedUid
  | onAudioFocusLost => cases taken; exact sameTabs_onAudioFocusLost
  | onAudioFocusRegained => cases taken; exact sameTabs_onAudioFocusRegained
  | notificationMute => cases taken; exact sameTabs_notificationMute
  | event => cases taken; exact sameTabs_handleEvent
  | reconcileRoster => cases taken; exact sameTabs_reconcileRoster
  | handleMicData => cases taken; exact sameTabs_handleMicData
  | engineConnected | engineRemoved => cases taken; exact sameTabs_engine rfl

/-- The app knows sessions that the engine has given out and the tab bar shows, and the
microphone belongs to a selected one. -/
structure Registered (s : VoiceApp) : Prop where
  issued : ∀ cid ∈ s.rt.keys, cid < s.engine.nextConnectionId
  listed : s.rt.keys ⊆ s.order
  selected : s.selectedId = none → s.rt.keys = []

theorem registered_build : Registered build := by
  constructor <;> simp [build, LinkedMap.empty]

theorem Registered.micConnectionId {s : VoiceApp} (registered : Registered s)
    (mic : s.micConnectionId ≠ 0) : s.selectedId = some s.micConnectionId := by
  cases selected : s.selectedId with
  | none =>
    have idle : s.micConnectionId = 0 := by
      simp [VoiceApp.micConnectionId, selected, registered.selected selected]
    exact absurd idle mic
  | some cid => simp [VoiceApp.micConnectionId, selected]

theorem SameTabs.registered {s t : VoiceApp} (same : SameTabs s t) (registered : Registered s) :
    Registered t where
  issued := by simpa only [same.keys, same.next] using registered.issued
  listed := by
    rw [same.keys]
    exact fun _ known => same.order (registered.listed known)
  selected := by simpa only [same.keys, same.selected] using registered.selected

theorem mem_keys_insert {V : Type*} {m : LinkedMap ConnectionId V} {cid queried : ConnectionId}
    {value : V} : queried ∈ (m.insert cid value).keys ↔ queried = cid ∨ queried ∈ m.keys := by
  simp only [LinkedMap.insert]
  split
  · rename_i present
    exact ⟨.inr, fun known => known.elim (fun same => same ▸ present) id⟩
  · simp [or_comm]

theorem openSession_keys {s : VoiceApp} {savedMicGain : Option ℚ} :
    (s.openSession savedMicGain).rt.keys =
      (s.rt.insert s.engine.nextConnectionId ⟨false⟩).keys := by
  cases savedMicGain <;> rfl

theorem openSession_next {s : VoiceApp} {savedMicGain : Option ℚ} :
    (s.openSession savedMicGain).engine.nextConnectionId = s.engine.nextConnectionId + 1 := by
  cases savedMicGain <;> rfl

theorem openSession_selectedId {s : VoiceApp} {savedMicGain : Option ℚ} :
    (s.openSession savedMicGain).selectedId = some s.engine.nextConnectionId := rfl

theorem mem_setSession_order {s : VoiceApp} {cid queried : ConnectionId}
    {next : TsConnectionState} :
    queried ∈ (s.setSession cid next).order ↔ queried = cid ∨ queried ∈ s.order := by
  simp only [setSession]
  split
  · rename_i present
    exact ⟨.inr, fun listed => listed.elim (fun same => same ▸ present) id⟩
  · simp [or_comm]

theorem mem_openSession_order {s : VoiceApp} {savedMicGain : Option ℚ} {queried : ConnectionId} :
    queried ∈ (s.openSession savedMicGain).order ↔
      queried = s.engine.nextConnectionId ∨ queried ∈ s.order := by
  cases savedMicGain with
  | none => simp only [openSession, Option.elim_none, mem_setSession_order]
  | some gain =>
    simp only [openSession, Option.elim_some, setMicGain, mem_setSession_order, or_self_left]

theorem registered_openSession {s : VoiceApp} {savedMicGain : Option ℚ}
    (registered : Registered s) : Registered (s.openSession savedMicGain) := by
  constructor
  · intro cid known
    rw [openSession_keys, mem_keys_insert] at known
    rw [openSession_next]
    cases known with
    | inl fresh => exact fresh ▸ Nat.lt_succ_self _
    | inr known => exact Nat.lt_succ_of_lt (registered.issued cid known)
  · intro cid known
    rw [openSession_keys, mem_keys_insert] at known
    exact mem_openSession_order.mpr (known.imp_right fun known => registered.listed known)
  · intro unselected
    cases unselected

theorem registered_cancelConnect {s : VoiceApp} {cid : ConnectionId} (registered : Registered s) :
    Registered (s.cancelConnect cid) := by
  constructor
  · intro other known
    exact registered.issued other (List.mem_filter.mp known).1
  · intro other known
    simp only [cancelConnect, LinkedMap.erase, List.mem_filter] at known ⊢
    exact ⟨registered.listed known.1, known.2⟩
  · intro unselected
    simp only [cancelConnect, LinkedMap.erase] at unselected ⊢
    split at unselected
    · rename_i empty
      refine List.filter_eq_nil_iff.mpr fun other known => ?_
      exact List.filter_eq_nil_iff.mp empty other (registered.listed known)
    · rw [registered.selected unselected, List.filter_nil]

theorem registered_selectSession {s : VoiceApp} {cid : ConnectionId} (registered : Registered s) :
    Registered (s.selectSession cid) := by
  simp only [selectSession]
  split
  · exact ⟨registered.issued, registered.listed, fun unselected => by cases unselected⟩
  · exact registered

theorem registered_step {s t : VoiceApp} {action : Action} (registered : Registered s)
    (taken : s.step action = some t) : Registered t := by
  cases moves : action.movesTabs with
  | false => exact (sameTabs_step moves taken).registered registered
  | true =>
    cases action with
    | openSession => cases taken; exact registered_openSession registered
    | cancelConnect => cases taken; exact registered_cancelConnect registered
    | selectSession => cases taken; exact registered_selectSession registered
    | _ => cases moves

end VoiceApp

end Nek0.Source.Voice
