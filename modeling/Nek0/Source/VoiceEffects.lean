import Nek0.Source.VoiceApp

/-!
# What the operations of the voice part change

The microphone operations leave the sessions alone, and every other operation writes
few fields of one session. `Keeps view s t` says that a view of the sessions is the same
in both states; a result about some fields takes these fields as its view and looks only
at the operations that write them.
-/

namespace Nek0.Source.Voice

open Nek0.Library

namespace VoiceApp

section Primitives

variable (s : VoiceApp) (cid queried : ConnectionId) (next : TsConnectionState)
  (change : SessionRuntime → SessionRuntime)

theorem stateOf_setSession :
    (s.setSession cid next).stateOf queried = if queried = cid then next else s.stateOf queried := by
  simp only [stateOf, setSession, LinkedMap.find_insert]
  split <;> rfl

@[simp] theorem stateOf_setSession_self : (s.setSession cid next).stateOf cid = next := by
  simp [stateOf_setSession]

theorem stateOf_setSession_of_ne (different : queried ≠ cid) :
    (s.setSession cid next).stateOf queried = s.stateOf queried := by
  simp [stateOf_setSession, different]

@[simp] theorem setSession_selectedId : (s.setSession cid next).selectedId = s.selectedId := rfl
@[simp] theorem setSession_rt : (s.setSession cid next).rt = s.rt := rfl
@[simp] theorem setSession_audioService :
    (s.setSession cid next).audioService = s.audioService := rfl
@[simp] theorem setSession_micEnabled : (s.setSession cid next).micEnabled = s.micEnabled := rfl
@[simp] theorem setSession_engine : (s.setSession cid next).engine = s.engine := rfl
@[simp] theorem setSession_sent : (s.setSession cid next).sent = s.sent := rfl
@[simp] theorem setSession_orphaned : (s.setSession cid next).orphaned = s.orphaned := rfl
@[simp] theorem setSession_stray : (s.setSession cid next).stray = s.stray := rfl
@[simp] theorem setSession_micConnectionId :
    (s.setSession cid next).micConnectionId = s.micConnectionId := rfl

@[simp] theorem stateOf_modifyRt : (s.modifyRt cid change).stateOf queried = s.stateOf queried := rfl

@[simp] theorem modifyRt_micConnectionId :
    (s.modifyRt cid change).micConnectionId = s.micConnectionId := by
  simp [micConnectionId, modifyRt, LinkedMap.keys_modify]

end Primitives

section Microphone

variable (s : VoiceApp)

@[simp] theorem startAudioService_sessions : s.startAudioService.sessions = s.sessions := by
  simp only [startAudioService]
  split <;> rfl

@[simp] theorem startAudioService_rt : s.startAudioService.rt = s.rt := by
  simp only [startAudioService]
  split <;> rfl

@[simp] theorem startAudioService_selectedId :
    s.startAudioService.selectedId = s.selectedId := by
  simp only [startAudioService]
  split <;> rfl

@[simp] theorem stopAudioService_sessions : s.stopAudioService.sessions = s.sessions := by
  simp only [stopAudioService]
  repeat' split
  all_goals rfl

@[simp] theorem stopAudioService_rt : s.stopAudioService.rt = s.rt := by
  simp only [stopAudioService]
  repeat' split
  all_goals rfl

@[simp] theorem stopAudioService_selectedId : s.stopAudioService.selectedId = s.selectedId := by
  simp only [stopAudioService]
  repeat' split
  all_goals rfl

@[simp] theorem updateMicState_sessions : s.updateMicState.sessions = s.sessions := by
  simp only [updateMicState]
  repeat' split
  all_goals simp

@[simp] theorem updateMicState_rt : s.updateMicState.rt = s.rt := by
  simp only [updateMicState]
  repeat' split
  all_goals simp

@[simp] theorem updateMicState_selectedId : s.updateMicState.selectedId = s.selectedId := by
  simp only [updateMicState]
  repeat' split
  all_goals simp

@[simp] theorem handleMicData_sessions : s.handleMicData.sessions = s.sessions := by
  simp only [handleMicData]
  repeat' split
  all_goals rfl

end Microphone

/-- Every listed session is written once. -/
theorem stateOf_writeAll {s : VoiceApp} {b : ConnectionId}
    (write : TsConnectionState → TsConnectionState) (cids : List ConnectionId)
    (once : cids.Nodup) :
    (cids.foldl (fun s cid => s.setSession cid (write (s.stateOf cid))) s).stateOf b =
      if b ∈ cids then write (s.stateOf b) else s.stateOf b := by
  induction cids generalizing s with
  | nil => rfl
  | cons cid cids ih =>
    rw [List.nodup_cons] at once
    rw [List.foldl_cons, ih once.2]
    by_cases here : b = cid
    · subst here
      simp [once.1]
    · simp [stateOf_setSession, here]

/-- A view of the sessions is the same in both states. -/
def Keeps {β : Type*} (view : TsConnectionState → β) (s t : VoiceApp) : Prop :=
  ∀ cid, view (t.stateOf cid) = view (s.stateOf cid)

section Keeps

variable {β : Type*} {view : TsConnectionState → β} {s t u : VoiceApp}

theorem Keeps.refl : Keeps view s s := fun _ => rfl

theorem Keeps.trans (first : Keeps view s t) (second : Keeps view t u) : Keeps view s u :=
  fun cid => (second cid).trans (first cid)

theorem keeps_of_sessions (same : t.sessions = s.sessions) : Keeps view s t := by
  intro cid
  simp only [stateOf, same]

theorem keeps_setSession {cid : ConnectionId} {next : TsConnectionState}
    (same : view next = view (s.stateOf cid)) : Keeps view s (s.setSession cid next) := by
  intro queried
  rw [stateOf_setSession]
  split
  · rename_i here
    rw [same, here]
  · rfl

/-- A write to every session that the view does not show. -/
theorem keeps_foldl {f : VoiceApp → ConnectionId → VoiceApp} (cids : List ConnectionId)
    (each : ∀ s cid, Keeps view s (f s cid)) : Keeps view s (cids.foldl f s) := by
  induction cids generalizing s with
  | nil => exact .refl
  | cons cid cids ih => exact (each s cid).trans ih

end Keeps

section Operations

variable {β : Type*} {view : TsConnectionState → β} {s : VoiceApp} {cid : ConnectionId}

theorem keeps_loadAudioPreferences {audio : AudioPreferences}
    (blind : ∀ st, view { st.copy with audio := audio } = view st) :
    Keeps view s (s.loadAudioPreferences audio) :=
  keeps_foldl _ fun _ _ => keeps_setSession (blind _)

theorem keeps_loadHistoryPreferences {history : HistoryPreferences}
    (blind : ∀ st, view { st.copy with history := history } = view st) :
    Keeps view s (s.loadHistoryPreferences history) :=
  keeps_foldl _ fun _ _ => keeps_setSession (blind _)

theorem keeps_resumeMuted (blind : ∀ st, view { st.copy with inputMuted := true } = view st) :
    Keeps view s s.resumeMuted :=
  keeps_foldl _ fun _ _ => keeps_setSession (blind _)

theorem keeps_setMicGain {gain : ℚ}
    (blind : ∀ st, view { st.copy with micGain := gain } = view st) :
    Keeps view s (s.setMicGain cid gain) := by
  intro queried
  exact keeps_setSession (blind _) queried

theorem keeps_openSession {savedMicGain : Option ℚ}
    (gains : ∀ st gain, view { st.copy with micGain := gain } = view st)
    (opens : ∀ st, view { st.copy with connecting := true } = view st) :
    Keeps view s (s.openSession savedMicGain) := by
  cases savedMicGain with
  | none =>
    intro queried
    exact keeps_setSession (opens _) queried
  | some gain =>
    intro queried
    have gained : Keeps view s (s.setMicGain s.engine.nextConnectionId gain) :=
      keeps_setMicGain (gains · gain)
    exact (keeps_setSession (opens _) queried).trans (gained queried)

theorem keeps_selectSession : Keeps view s (s.selectSession cid) := by
  simp only [selectSession]
  split <;> exact .refl

theorem keeps_disconnect (copies : ∀ st, view st.copy = view st)
    (closes : ∀ st, view { st.copy with connecting := false } = view st) :
    Keeps view s (s.disconnect cid) := by
  have copied : Keeps view s (s.setSession cid (s.stateOf cid).copy) :=
    keeps_setSession (copies _)
  simp only [disconnect]
  split
  · exact copied
  · split
    · refine copied.trans ((keeps_of_sessions ?_).trans (keeps_setSession (closes _)))
      exact stopAudioService_sessions _
    · exact copied.trans (keeps_setSession (closes _))

theorem keeps_retry (copies : ∀ st, view st.copy = view st) : Keeps view s (s.retry cid) :=
  keeps_setSession (copies _)

theorem keeps_updateMicState : Keeps view s s.updateMicState :=
  keeps_of_sessions (updateMicState_sessions s)

theorem keeps_toggleInputMute
    (blind : ∀ st muted, view { st.copy with inputMuted := muted } = view st) :
    Keeps view s (s.toggleInputMute cid) := by
  refine Keeps.trans ?_ keeps_updateMicState
  intro queried
  by_cases muted : (s.stateOf cid).inputMuted
  · simp only [muted]
    exact keeps_setSession (blind _ _) queried
  · simp only [muted]
    exact keeps_setSession (blind _ _) queried

theorem keeps_setFullMute {muted : Bool}
    (blind : ∀ st, view { st.copy with inputMuted := muted, outputMuted := muted } = view st) :
    Keeps view s (s.setFullMute cid muted) := by
  simp only [setFullMute]
  split
  · exact .refl
  · refine Keeps.trans ?_ keeps_updateMicState
    intro queried
    exact keeps_setSession (blind _) queried

theorem keeps_setFullMuteAll {muted : Bool}
    (blind : ∀ st, view { st.copy with inputMuted := muted, outputMuted := muted } = view st) :
    Keeps view s (s.setFullMuteAll muted) := by
  refine keeps_foldl _ fun s cid => ?_
  split
  · exact keeps_setFullMute blind
  · exact .refl

theorem keeps_toggleOutputMute
    (blind : ∀ st muted, view { st.copy with outputMuted := muted } = view st) :
    Keeps view s (s.toggleOutputMute cid) := by
  intro queried
  exact keeps_setSession (blind _ _) queried

theorem keeps_togglePttMode
    (blind : ∀ st ptt, view { st.copy with pttMode := ptt } = view st) :
    Keeps view s (s.togglePttMode cid) := by
  refine Keeps.trans ?_ keeps_updateMicState
  intro queried
  by_cases ptt : (s.stateOf cid).pttMode
  · simp only [ptt]
    exact keeps_setSession (blind _ _) queried
  · simp only [ptt]
    exact keeps_setSession (blind _ _) queried

theorem keeps_setPttPressed {pressed : Bool}
    (blind : ∀ st, view { st.copy with pttPressed := pressed } = view st) :
    Keeps view s (s.setPttPressed cid pressed) :=
  (keeps_setSession (blind _)).trans keeps_updateMicState

theorem keeps_setVadThreshold {threshold : ℚ}
    (blind : ∀ st, view { st.copy with vadThreshold := threshold } = view st) :
    Keeps view s (s.setVadThreshold cid threshold) := by
  intro queried
  exact keeps_setSession (blind _) queried

theorem keeps_setVadEnabled {enabled : Bool}
    (blind : ∀ st, view { st.copy with vadEnabled := enabled } = view st) :
    Keeps view s (s.setVadEnabled cid enabled) := by
  intro queried
  exact keeps_setSession (blind _) queried

theorem keeps_applyWhisperPreferences {enabled : Bool} {uids : List String}
    (blind : ∀ st, view { st.copy with
      whisperAllowlistEnabled := enabled
      whisperAllowedUids := uids
      whisperActive := false
      whisperTargetClientIds := []
      whisperTargetChannelIds := [] } = view st) :
    Keeps view s (s.applyWhisperPreferences cid enabled uids) := by
  intro queried
  exact keeps_setSession (blind _) queried

theorem keeps_setWhisperTargets {clientIds channelIds : List Int}
    (blind : ∀ st clients channels active, view { st.copy with
      whisperTargetClientIds := clients
      whisperTargetChannelIds := channels
      whisperActive := active } = view st) :
    Keeps view s (s.setWhisperTargets cid clientIds channelIds) := by
  intro queried
  simp only [setWhisperTargets]
  split <;> exact keeps_setSession (blind _ _ _ _) queried

theorem keeps_setWhisperActive {active : Bool}
    (notes : ∀ st notice, view { st with notice := notice } = view st)
    (blind : ∀ st active, view { st.copy with whisperActive := active } = view st) :
    Keeps view s (s.setWhisperActive cid active) := by
  intro queried
  simp only [setWhisperActive]
  repeat' split
  · exact keeps_setSession (notes _ _) queried
  · rfl
  · exact keeps_setSession (blind _ _) queried

theorem keeps_setWhisperAllowlistEnabled {enabled : Bool}
    (blind : ∀ st, view { st.copy with whisperAllowlistEnabled := enabled } = view st) :
    Keeps view s (s.setWhisperAllowlistEnabled cid enabled) := by
  intro queried
  exact keeps_setSession (blind _) queried

theorem keeps_toggleWhisperAllowedUid {uid : String}
    (blind : ∀ st uids, view { st.copy with whisperAllowedUids := uids } = view st) :
    Keeps view s (s.toggleWhisperAllowedUid cid uid) := by
  intro queried
  simp only [toggleWhisperAllowedUid]
  split
  · rfl
  · exact keeps_setSession (blind _ _) queried

theorem keeps_pruneWhisperTargets
    (blind : ∀ st clients channels active, view { st.copy with
      whisperTargetClientIds := clients
      whisperTargetChannelIds := channels
      whisperActive := active } = view st) :
    Keeps view s (s.pruneWhisperTargets cid) := by
  simp only [pruneWhisperTargets]
  repeat' split
  · exact .refl
  · exact .refl
  · exact keeps_setWhisperTargets blind

theorem keeps_reconcileRoster {clients : List TsClient}
    (rosters : ∀ st channels clients,
      view { st.copy with channels := channels, clients := clients } = view st)
    (targets : ∀ st clients channels active, view { st.copy with
      whisperTargetClientIds := clients
      whisperTargetChannelIds := channels
      whisperActive := active } = view st) :
    Keeps view s (s.reconcileRoster cid clients) := by
  simp only [reconcileRoster]
  split
  · exact (keeps_setSession (rosters _ _ _)).trans (keeps_pruneWhisperTargets targets)
  · exact keeps_pruneWhisperTargets targets

theorem keeps_modifyRt {change : SessionRuntime → SessionRuntime} :
    Keeps view s (s.modifyRt cid change) := fun _ => rfl

theorem keeps_onAudioFocusLost
    (blind : ∀ st muted, view { st.copy with inputMuted := muted } = view st) :
    Keeps view s s.onAudioFocusLost := by
  simp only [onAudioFocusLost]
  repeat' split
  · exact .refl
  · exact keeps_modifyRt.trans (keeps_toggleInputMute blind)
  · exact .refl

theorem keeps_onAudioFocusRegained
    (blind : ∀ st muted, view { st.copy with inputMuted := muted } = view st) :
    Keeps view s s.onAudioFocusRegained := by
  simp only [onAudioFocusRegained]
  repeat' split
  · exact .refl
  · exact keeps_modifyRt
  · exact keeps_modifyRt.trans (keeps_toggleInputMute blind)
  · exact .refl

theorem keeps_notificationMute {inputMuted : Bool}
    (blind : ∀ st muted, view { st.copy with inputMuted := muted } = view st) :
    Keeps view s (s.notificationMute inputMuted) := by
  simp only [notificationMute]
  repeat' split
  · exact .refl
  · exact .refl
  · exact keeps_toggleInputMute blind

/-- The answer goes to a service that has asked. -/
theorem permissionAnswered_cases {t : VoiceApp} {granted : Bool}
    (answered : s.permissionAnswered granted = some t) :
    ∃ v, s.audioService = some v ∧ v.enabling ≠ 0 ∧
      t = { s with
        audioService :=
          some { v with enabling := v.enabling - 1, listening := v.listening || granted } } := by
  simp only [permissionAnswered, Option.bind_eq_some_iff, Option.ite_none_left_eq_some,
    Option.some.injEq] at answered
  obtain ⟨v, serving, waiting, rfl⟩ := answered
  exact ⟨v, serving, waiting, rfl⟩

theorem keeps_permissionAnswered {t : VoiceApp} {granted : Bool}
    (answered : s.permissionAnswered granted = some t) : Keeps view s t := by
  obtain ⟨v, -, -, rfl⟩ := permissionAnswered_cases answered
  exact .refl

theorem orphanAnswered_cases {t : VoiceApp} {granted : Bool}
    (answered : s.orphanAnswered granted = some t) :
    s.orphaned ≠ 0 ∧
      t = { s with orphaned := s.orphaned - 1, stray := s.stray || granted } := by
  simp only [orphanAnswered, Option.ite_none_left_eq_some, Option.some.injEq] at answered
  exact ⟨answered.1, answered.2.symm⟩

theorem keeps_orphanAnswered {t : VoiceApp} {granted : Bool}
    (answered : s.orphanAnswered granted = some t) : Keeps view s t := by
  obtain ⟨-, rfl⟩ := orphanAnswered_cases answered
  exact .refl

theorem keeps_handleMicData : Keeps view s s.handleMicData :=
  keeps_of_sessions (handleMicData_sessions s)

theorem keeps_hydrateServerMessages {data : ConnectedEvent}
    (notes : ∀ st notice, view { st with notice := notice } = view st)
    (closes : ∀ st, view { st.copy with connecting := false } = view st) :
    Keeps view s (s.hydrateServerMessages cid data) := by
  simp only [hydrateServerMessages]
  repeat' split
  · refine Keeps.trans ?_ (keeps_disconnect (fun _ => notes _ _) closes)
    exact keeps_setSession (notes _ _)
  · exact keeps_setSession (notes _ _)
  · exact .refl

/-- After the session has been written, a `connected` event changes its notice and the
audio service only. -/
theorem keeps_handleConnected {data : ConnectedEvent}
    (notes : ∀ st notice, view { st with notice := notice } = view st)
    (closes : ∀ st, view { st.copy with connecting := false } = view st) :
    Keeps view (s.setSession cid (connectedState (s.stateOf cid) data))
      (s.handleConnected cid data) := by
  have hydrated (s : VoiceApp) : Keeps view s (s.hydrateServerMessages cid data) :=
    keeps_hydrateServerMessages notes closes
  simp only [handleConnected]
  split
  · exact (hydrated _).trans (keeps_of_sessions (startAudioService_sessions _))
  · exact hydrated _

end Operations

/-- A view of the engine sessions is the same in both states. -/
def EngineKeeps {γ : Type*} (view : TsConnection → γ) (s t : VoiceApp) : Prop :=
  ∀ cid, (t.engine.sessions cid).map view = (s.engine.sessions cid).map view

section EngineKeeps

variable {γ : Type*} {view : TsConnection → γ} {s t u : VoiceApp} {cid : ConnectionId}

theorem EngineKeeps.refl : EngineKeeps view s s := fun _ => rfl

theorem EngineKeeps.trans (first : EngineKeeps view s t) (second : EngineKeeps view t u) :
    EngineKeeps view s u :=
  fun cid => (second cid).trans (first cid)

theorem engineKeeps_of_engine (same : t.engine = s.engine) : EngineKeeps view s t := by
  intro cid
  rw [same]

theorem engineKeeps_modify {change : TsConnection → TsConnection}
    (same : ∀ c, view (change c) = view c) (left : t.engine = s.engine.modify cid change) :
    EngineKeeps view s t := by
  intro queried
  rw [left, VoiceEngine.modify]
  by_cases here : queried = cid
  · subst here
    simp [Function.comp_def, same]
  · simp [here]

theorem engineKeeps_foldl {f : VoiceApp → ConnectionId → VoiceApp} (cids : List ConnectionId)
    (each : ∀ s cid, EngineKeeps view s (f s cid)) : EngineKeeps view s (cids.foldl f s) := by
  induction cids generalizing s with
  | nil => exact .refl
  | cons cid cids ih => exact (each s cid).trans ih

end EngineKeeps

/-- A view that does not show the encoder. -/
structure EncoderBlind {γ : Type*} (view : TsConnection → γ) : Prop where
  encoder : ∀ c encoder, view { c with audioEncoder := encoder } = view c

/-- A view that shows neither the encoder nor what the server was told. -/
structure Deaf {γ : Type*} (view : TsConnection → γ) : Prop extends EncoderBlind view where
  muted : ∀ c input output, view (TsConnection.setMuted input output c) = view c

section EncoderBlind

variable {γ : Type*} {view : TsConnection → γ} (blind : EncoderBlind view) {s : VoiceApp}
  {cid : ConnectionId}

include blind

theorem engineKeeps_startAudioService : EngineKeeps view s s.startAudioService := by
  simp only [startAudioService]
  split
  · exact .refl
  · exact engineKeeps_modify (fun c => blind.encoder c true) rfl

theorem engineKeeps_stopAudioService : EngineKeeps view s s.stopAudioService := by
  simp only [stopAudioService]
  repeat' split
  · exact .refl
  · exact .refl
  · exact engineKeeps_modify (fun c => blind.encoder c false) rfl
  · exact .refl

theorem engineKeeps_updateMicState : EngineKeeps view s s.updateMicState := by
  simp only [updateMicState]
  repeat' split
  · exact engineKeeps_startAudioService blind
  all_goals exact .refl

theorem engineKeeps_setPttPressed {pressed : Bool} :
    EngineKeeps view s (s.setPttPressed cid pressed) :=
  EngineKeeps.trans (engineKeeps_of_engine rfl) (engineKeeps_updateMicState blind)

theorem engineKeeps_disconnect : EngineKeeps view s (s.disconnect cid) := by
  simp only [disconnect]
  repeat' split
  · exact .refl
  · exact EngineKeeps.trans (engineKeeps_of_engine rfl) (engineKeeps_stopAudioService blind)
  · exact .refl

theorem engineKeeps_handleDisconnected {expected : Bool} {reason : String} {retried : Bool} :
    EngineKeeps view s (s.handleDisconnected cid expected reason retried) := by
  simp only [handleDisconnected]
  repeat' split
  · exact .refl
  · exact (engineKeeps_stopAudioService blind).trans (engineKeeps_of_engine rfl)
  · exact engineKeeps_stopAudioService blind

theorem engineKeeps_handleConnected {data : ConnectedEvent} :
    EngineKeeps view s (s.handleConnected cid data) := by
  have hydrated (s : VoiceApp) : EngineKeeps view s (s.hydrateServerMessages cid data) := by
    simp only [hydrateServerMessages]
    repeat' split
    · exact EngineKeeps.trans (engineKeeps_of_engine rfl) (engineKeeps_disconnect blind)
    · exact .refl
    · exact .refl
  simp only [handleConnected]
  split
  · refine EngineKeeps.trans ?_ (engineKeeps_startAudioService blind)
    exact EngineKeeps.trans (engineKeeps_of_engine rfl) (hydrated _)
  · exact EngineKeeps.trans (engineKeeps_of_engine rfl) (hydrated _)

theorem engineKeeps_handleEvent {event : TsEngineEvent} :
    EngineKeeps view s (s.handleEvent cid event) := by
  simp only [handleEvent]
  split
  · exact .refl
  · cases event with
    | connected => exact engineKeeps_handleConnected blind
    | disconnected => exact engineKeeps_handleDisconnected blind
    | connectFailed | error | clientJoined | clientLeft => exact .refl
    | channelsUpdated =>
      dsimp only
      split <;> exact .refl
    | other notice => cases notice <;> exact .refl

end EncoderBlind

section Deaf

variable {γ : Type*} {view : TsConnection → γ} (deaf : Deaf view) {s : VoiceApp}
  {cid : ConnectionId}

include deaf

theorem engineKeeps_toggleInputMute : EngineKeeps view s (s.toggleInputMute cid) := by
  refine EngineKeeps.trans ?_ (engineKeeps_updateMicState deaf.toEncoderBlind)
  by_cases muted : (s.stateOf cid).inputMuted
  · simp only [muted]
    exact engineKeeps_modify (fun c => deaf.muted c _ _) rfl
  · simp only [muted]
    exact engineKeeps_modify (fun c => deaf.muted c _ _) rfl

theorem engineKeeps_setFullMute {muted : Bool} :
    EngineKeeps view s (s.setFullMute cid muted) := by
  simp only [setFullMute]
  split
  · exact .refl
  · refine EngineKeeps.trans ?_ (engineKeeps_updateMicState deaf.toEncoderBlind)
    exact engineKeeps_modify (fun c => deaf.muted c _ _) rfl

theorem engineKeeps_setFullMuteAll {muted : Bool} :
    EngineKeeps view s (s.setFullMuteAll muted) := by
  refine engineKeeps_foldl _ fun s cid => ?_
  split
  · exact engineKeeps_setFullMute deaf
  · exact .refl

theorem engineKeeps_toggleOutputMute : EngineKeeps view s (s.toggleOutputMute cid) :=
  engineKeeps_modify (fun c => deaf.muted c _ _) rfl

theorem engineKeeps_onAudioFocusLost : EngineKeeps view s s.onAudioFocusLost := by
  simp only [onAudioFocusLost]
  repeat' split
  · exact .refl
  · exact EngineKeeps.trans (engineKeeps_of_engine rfl) (engineKeeps_toggleInputMute deaf)
  · exact .refl

theorem engineKeeps_onAudioFocusRegained : EngineKeeps view s s.onAudioFocusRegained := by
  simp only [onAudioFocusRegained]
  repeat' split
  · exact .refl
  · exact .refl
  · exact EngineKeeps.trans (engineKeeps_of_engine rfl) (engineKeeps_toggleInputMute deaf)
  · exact .refl

theorem engineKeeps_notificationMute {inputMuted : Bool} :
    EngineKeeps view s (s.notificationMute inputMuted) := by
  simp only [notificationMute]
  repeat' split
  · exact .refl
  · exact .refl
  · exact engineKeeps_toggleInputMute deaf

end Deaf

theorem engineKeeps_loadAudioPreferences {γ : Type*} {view : TsConnection → γ} {s : VoiceApp}
    {audio : AudioPreferences} : EngineKeeps view s (s.loadAudioPreferences audio) :=
  engineKeeps_foldl _ fun _ _ => .refl

theorem engineKeeps_loadHistoryPreferences {γ : Type*} {view : TsConnection → γ} {s : VoiceApp}
    {history : HistoryPreferences} : EngineKeeps view s (s.loadHistoryPreferences history) :=
  engineKeeps_foldl _ fun _ _ => .refl

theorem engineKeeps_permissionAnswered {γ : Type*} {view : TsConnection → γ} {s t : VoiceApp}
    {granted : Bool} (answered : s.permissionAnswered granted = some t) :
    EngineKeeps view s t := by
  obtain ⟨v, -, -, rfl⟩ := permissionAnswered_cases answered
  exact .refl

theorem engineKeeps_orphanAnswered {γ : Type*} {view : TsConnection → γ} {s t : VoiceApp}
    {granted : Bool} (answered : s.orphanAnswered granted = some t) : EngineKeeps view s t := by
  obtain ⟨-, rfl⟩ := orphanAnswered_cases answered
  exact .refl

theorem engineKeeps_handleMicData {γ : Type*} {view : TsConnection → γ} {s : VoiceApp} :
    EngineKeeps view s s.handleMicData := by
  simp only [handleMicData]
  repeat' split
  all_goals exact .refl

theorem engineKeeps_resumeMuted {γ : Type*} {view : TsConnection → γ} {s : VoiceApp} :
    EngineKeeps view s s.resumeMuted :=
  engineKeeps_foldl _ fun _ _ => .refl

/-- What no voice setting touches in a session of the engine. -/
def wiring (c : TsConnection) : Bool × Nat × Bool × Bool × Bool :=
  (c.connected, c.ownClientId, c.audioEncoder, c.inputMuted, c.outputMuted)

section Wiring

variable {s : VoiceApp} {cid : ConnectionId}

theorem engineKeeps_of_wiring {γ : Type*} {s t : VoiceApp} (keeps : EngineKeeps wiring s t)
    (read : Bool × Nat × Bool × Bool × Bool → γ) :
    EngineKeeps (fun c => read (wiring c)) s t := by
  intro cid
  have same := congrArg (Option.map read) (keeps cid)
  simpa [Function.comp_def] using same

theorem wiring_modify {s t : VoiceApp} {cid : ConnectionId}
    {change : TsConnection → TsConnection} (left : t.engine = s.engine.modify cid change)
    (same : ∀ c, wiring (change c) = wiring c) : EngineKeeps wiring s t :=
  engineKeeps_modify same left

theorem wiring_setWhisperTargets (clientIds channelIds : List Int) (c : TsConnection) :
    wiring (TsConnection.setWhisperTargets clientIds channelIds c) = wiring c := by
  simp only [TsConnection.setWhisperTargets]
  split <;> rfl

theorem wiring_setVadEnabled {enabled : Bool} :
    EngineKeeps wiring s (s.setVadEnabled cid enabled) :=
  wiring_modify rfl fun _ => rfl

theorem wiring_setVadThreshold {threshold : ℚ} :
    EngineKeeps wiring s (s.setVadThreshold cid threshold) :=
  wiring_modify rfl fun _ => rfl

theorem wiring_setMicGain {gain : ℚ} : EngineKeeps wiring s (s.setMicGain cid gain) :=
  wiring_modify rfl fun _ => rfl

theorem wiring_setWhisperAllowlistEnabled {enabled : Bool} :
    EngineKeeps wiring s (s.setWhisperAllowlistEnabled cid enabled) :=
  wiring_modify rfl fun _ => rfl

theorem wiring_applyWhisperPreferences {enabled : Bool} {uids : List String} :
    EngineKeeps wiring s (s.applyWhisperPreferences cid enabled uids) :=
  wiring_modify (VoiceEngine.modify_modify ..) fun _ => rfl

theorem wiring_toggleWhisperAllowedUid {uid : String} :
    EngineKeeps wiring s (s.toggleWhisperAllowedUid cid uid) := by
  simp only [toggleWhisperAllowedUid]
  split
  · exact .refl
  · exact wiring_modify rfl fun _ => rfl

theorem wiring_setWhisperTargetsCall {clientIds channelIds : List Int} :
    EngineKeeps wiring s (s.setWhisperTargets cid clientIds channelIds) := by
  simp only [VoiceApp.setWhisperTargets]
  split
  · refine wiring_modify (VoiceEngine.modify_modify ..) fun c => ?_
    exact wiring_setWhisperTargets _ _ c
  · exact wiring_modify rfl (wiring_setWhisperTargets _ _)

theorem wiring_setWhisperActive {active : Bool} :
    EngineKeeps wiring s (s.setWhisperActive cid active) := by
  simp only [VoiceApp.setWhisperActive]
  repeat' split
  · exact .refl
  · exact wiring_modify rfl fun _ => rfl
  · exact wiring_modify rfl fun _ => rfl

theorem wiring_reconcileRoster {clients : List TsClient} :
    EngineKeeps wiring s (s.reconcileRoster cid clients) := by
  have pruned (s : VoiceApp) : EngineKeeps wiring s (s.pruneWhisperTargets cid) := by
    simp only [pruneWhisperTargets]
    repeat' split
    · exact .refl
    · exact .refl
    · exact wiring_setWhisperTargetsCall
  simp only [reconcileRoster]
  split
  · exact EngineKeeps.trans (engineKeeps_of_engine rfl) (pruned _)
  · exact pruned s

end Wiring

end VoiceApp

end Nek0.Source.Voice
