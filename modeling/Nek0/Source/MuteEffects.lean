import Nek0.Source.VoiceEffects

/-!
# What a step does to the mute of a session

Whether a session is muted and whether it is connected, as functions of the state before the
step.
-/

namespace Nek0.Source.Voice

open Nek0.Library

namespace VoiceApp

/-- An event of the session is handled. -/
def hears (s : VoiceApp) (cid : ConnectionId) : Bool := cid = 0 || (s.rt.find cid).isSome

/-- A `disconnected` event takes the session back to its initial state. -/
def resets (s : VoiceApp) (cid : ConnectionId) : Bool :=
  (s.rt.find cid).isSome && !(s.stateOf cid).connecting

/-- `mutedByFocusLoss`, which a session without a runtime does not have. -/
def marked (s : VoiceApp) (cid : ConnectionId) : Bool :=
  (s.rt.find cid).any (·.mutedByFocusLoss)

/-- The sessions that regaining the focus unmutes. -/
def unmutes (s : VoiceApp) (cid : ConnectionId) : Bool :=
  s.selectedId = some cid && s.marked cid && (s.stateOf cid).connected &&
    (s.stateOf cid).inputMuted

/-- What an action makes of the mute of a session, `none` where it leaves it alone. -/
def mutesTo (s : VoiceApp) (cid : ConnectionId) : Action → Option Bool
  | .toggleInputMute other => if other = cid then some !(s.stateOf cid).inputMuted else none
  | .setFullMute other muted => if other = cid then some muted else none
  | .setFullMuteAll muted =>
    if cid ∈ s.order ∧ (s.stateOf cid).connected = true then some muted else none
  -- A session that is not listed any more is muted whatever the button says.
  | .notificationMute muted =>
    if s.selectedId = some cid then some (muted || (s.sessions.find cid).isNone) else none
  | .onAudioFocusLost =>
    if s.selectedId = some cid ∧ (s.stateOf cid).connected = true then some true else none
  | .onAudioFocusRegained => if s.unmutes cid then some false else none
  | .resumeMuted => if cid ∈ s.sessions.keys then some true else none
  | .cancelConnect other => if other = cid then some false else none
  | .event other (.disconnected ..) => if other = cid ∧ s.resets cid then some false else none
  | _ => none

/-- Whether a session is connected after an action. -/
def connectedAfter (s : VoiceApp) (cid : ConnectionId) : Action → Bool
  | .cancelConnect other => other ≠ cid && (s.stateOf cid).connected
  | .event other (.connected _) => (s.stateOf cid).connected || (other = cid && s.hears cid)
  | .event other (.connectFailed ..) => (s.stateOf cid).connected && !(other = cid && s.hears cid)
  | .event other (.disconnected ..) => (s.stateOf cid).connected && !(other = cid && s.resets cid)
  | _ => (s.stateOf cid).connected

section Mute

variable {s t : VoiceApp} {cid other : ConnectionId}

theorem stateOf_updateMicState : s.updateMicState.stateOf cid = s.stateOf cid := by
  rw [stateOf, updateMicState_sessions, stateOf]

theorem stateOf_stopAudioService : s.stopAudioService.stateOf cid = s.stateOf cid := by
  rw [stateOf, stopAudioService_sessions, stateOf]

/-- A session that is not listed is not connected. -/
theorem listed_of_connected (connected : (s.stateOf cid).connected = true) :
    cid ∈ s.sessions.keys := by
  rw [s.sessions.mem_keys]
  by_contra unlisted
  rw [Option.not_isSome_iff_eq_none] at unlisted
  simp [stateOf, unlisted, TsConnectionState.new] at connected

theorem muted_setSession {next : TsConnectionState} :
    ((s.setSession other next).stateOf cid).inputMuted =
      if cid = other then next.inputMuted else (s.stateOf cid).inputMuted := by
  rw [stateOf_setSession]
  split <;> rfl

theorem muted_toggleInputMute :
    ((s.toggleInputMute other).stateOf cid).inputMuted =
      if cid = other then !(s.stateOf cid).inputMuted else (s.stateOf cid).inputMuted := by
  rw [toggleInputMute, stateOf_updateMicState, muted_setSession]
  by_cases here : cid = other
  · rw [if_pos here, if_pos here, here]
  · rw [if_neg here, if_neg here]
    split <;> rfl

theorem muted_setFullMute {muted : Bool} :
    ((s.setFullMute other muted).stateOf cid).inputMuted =
      if cid = other then muted else (s.stateOf cid).inputMuted := by
  rw [setFullMute]
  split
  · rename_i already
    by_cases here : cid = other
    · rw [if_pos here, here]
      exact already.1
    · rw [if_neg here]
  · rw [stateOf_updateMicState]
    exact muted_setSession

/-- Every connected session of the list is muted. -/
theorem muted_setFullMuteAll {muted : Bool} :
    ((s.setFullMuteAll muted).stateOf cid).inputMuted =
      if cid ∈ s.order ∧ (s.stateOf cid).connected = true then muted
      else (s.stateOf cid).inputMuted := by
  simp only [setFullMuteAll]
  generalize s.order = cids
  induction cids generalizing s with
  | nil => simp
  | cons other cids ih =>
    rw [List.foldl_cons, ih]
    by_cases connected : (s.stateOf other).connected = true
    · have same : Keeps TsConnectionState.connected s (s.setFullMute other muted) :=
        keeps_setFullMute fun _ => rfl
      rw [if_pos connected, same cid, muted_setFullMute]
      by_cases here : cid = other
      · simp [here, connected]
      · simp [here]
    · rw [if_neg connected]
      by_cases here : cid = other
      · simp [here, connected]
      · simp [here]

theorem muted_notificationMute {muted : Bool} :
    ((s.notificationMute muted).stateOf cid).inputMuted =
      if s.selectedId = some cid then muted || (s.sessions.find cid).isNone
      else (s.stateOf cid).inputMuted := by
  rw [notificationMute]
  cases selected : s.selectedId with
  | none => simp
  | some other =>
    dsimp only
    by_cases here : other = cid
    · subst here
      rw [if_pos rfl]
      cases found : s.sessions.find other with
      | none =>
        have fresh : (s.stateOf other).inputMuted = false := by
          rw [stateOf, found, Option.getD_none, TsConnectionState.new]
        simp [muted_toggleInputMute, fresh]
      | some st =>
        split
        · rename_i already
          simpa [stateOf, found] using already
        · rename_i wrong
          rw [muted_toggleInputMute, if_pos rfl]
          simp only [stateOf, found, Option.getD_some, Option.isNone_some, Bool.or_false]
          simp only [Option.map_some, Option.some.injEq] at wrong
          revert wrong
          cases st.inputMuted <;> cases muted <;> simp
    · have unselected : some other ≠ some cid := by simpa using here
      rw [if_neg unselected]
      split
      · rfl
      · rw [muted_toggleInputMute, if_neg (Ne.symm here)]

theorem muted_resumeMuted :
    (s.resumeMuted.stateOf cid).inputMuted =
      if cid ∈ s.sessions.keys then true else (s.stateOf cid).inputMuted := by
  have written : s.resumeMuted.stateOf cid =
      if cid ∈ s.sessions.keys then { (s.stateOf cid).copy with inputMuted := true }
      else s.stateOf cid :=
    stateOf_writeAll (fun st => { st.copy with inputMuted := true }) s.sessions.keys
      s.sessions.nodup
  rw [written]
  split <;> rfl

theorem stateOf_cancelConnect :
    (s.cancelConnect other).stateOf cid =
      if cid = other then TsConnectionState.new else s.stateOf cid := by
  by_cases here : cid = other
  · simp [stateOf, cancelConnect, here]
  · simp [stateOf, cancelConnect, here]

/-- The initial state is neither muted nor connected. -/
theorem stateOf_handleDisconnected {expected retried : Bool} {reason : String} :
    (s.handleDisconnected other expected reason retried).stateOf cid =
      if cid = other ∧ s.resets cid then disconnectedState (s.stateOf cid) expected reason retried
      else s.stateOf cid := by
  rw [handleDisconnected]
  by_cases here : cid = other
  · subst here
    by_cases connecting : (s.stateOf cid).connecting = true
    · simp [resets, connecting]
    · by_cases known : (s.rt.find cid).isSome
      · simp [resets, connecting, known, stateOf_stopAudioService]
      · simp [resets, connecting, known, stateOf_stopAudioService]
  · have elsewhere : ¬ (cid = other ∧ s.resets cid = true) := fun both => here both.1
    rw [if_neg elsewhere]
    dsimp only
    repeat' split
    · rfl
    · rw [stateOf_setSession_of_ne _ _ _ _ here, stateOf_stopAudioService]
    · exact stateOf_stopAudioService

theorem muted_onAudioFocusLost :
    (s.onAudioFocusLost.stateOf cid).inputMuted =
      if s.selectedId = some cid ∧ (s.stateOf cid).connected = true then true
      else (s.stateOf cid).inputMuted := by
  rw [onAudioFocusLost]
  cases selected : s.selectedId with
  | none => simp
  | some other =>
    dsimp only
    by_cases here : other = cid
    · subst here
      cases muted : (s.stateOf other).inputMuted <;>
        cases connected : (s.stateOf other).connected <;>
        simp [muted_toggleInputMute, muted]
    · have passed : ¬ (some other = some cid ∧ (s.stateOf cid).connected = true) := by
        simp [here]
      rw [if_neg passed]
      split
      · rw [muted_toggleInputMute, if_neg (Ne.symm here), stateOf_modifyRt]
      · rfl

theorem muted_onAudioFocusRegained :
    (s.onAudioFocusRegained.stateOf cid).inputMuted =
      if s.unmutes cid then false else (s.stateOf cid).inputMuted := by
  rw [onAudioFocusRegained, unmutes, marked]
  cases selected : s.selectedId with
  | none => simp
  | some other =>
    dsimp only
    by_cases here : other = cid
    · subst here
      cases mark : (s.rt.find other).any (·.mutedByFocusLoss) <;>
        cases muted : (s.stateOf other).inputMuted <;>
        cases connected : (s.stateOf other).connected <;>
        simp [muted_toggleInputMute, muted, connected]
    · have passed : decide (some other = some cid) = false := by simpa using here
      simp only [passed, Bool.false_and, Bool.false_eq_true, if_false]
      repeat' split
      · rfl
      · rw [muted_toggleInputMute, if_neg (Ne.symm here), stateOf_modifyRt]
      · rfl

end Mute

/-- Whether a session is muted and whether it is connected. -/
def muteView (st : TsConnectionState) : Bool × Bool := (st.inputMuted, st.connected)

section Step

variable {s t : VoiceApp} {cid other : ConnectionId}

/-- The step leaves the session alone as far as the view goes. -/
theorem Keeps.unwritten {action : Action} (keeps : Keeps muteView s t)
    (silent : s.mutesTo cid action = none)
    (stays : s.connectedAfter cid action = (s.stateOf cid).connected) :
    muteView (t.stateOf cid) =
      ((s.mutesTo cid action).getD (s.stateOf cid).inputMuted, s.connectedAfter cid action) := by
  rw [silent, stays]
  exact keeps cid

theorem connected_handleConnected {data : ConnectedEvent} :
    ((s.handleConnected other data).stateOf cid).connected =
      (decide (other = cid) || (s.stateOf cid).connected) := by
  have handled : Keeps muteView (s.setSession other (connectedState (s.stateOf other) data))
      (s.handleConnected other data) :=
    keeps_handleConnected (fun _ _ => rfl) fun _ => rfl
  have written := congrArg Prod.snd (handled cid)
  simp only [muteView] at written
  rw [written, stateOf_setSession]
  by_cases here : cid = other
  · simp [here, connectedState]
  · simp [here, Ne.symm here]

theorem muted_handleConnected {data : ConnectedEvent} :
    Keeps TsConnectionState.inputMuted s (s.handleConnected other data) := by
  have written : Keeps TsConnectionState.inputMuted s
      (s.setSession other (connectedState (s.stateOf other) data)) := keeps_setSession rfl
  exact written.trans (keeps_handleConnected (fun _ _ => rfl) fun _ => rfl)

theorem muteView_handleEvent {event : TsEngineEvent} :
    muteView ((s.handleEvent other event).stateOf cid) =
      ((s.mutesTo cid (.event other event)).getD (s.stateOf cid).inputMuted,
        s.connectedAfter cid (.event other event)) := by
  rw [handleEvent]
  split
  · rename_i dropped
    have deaf : s.hears other = false := by simp [hears, dropped.1, dropped.2]
    have stays : s.resets other = false := by simp [resets, dropped.2]
    by_cases here : other = cid
    · subst here
      cases event <;> simp [muteView, mutesTo, connectedAfter, deaf, stays]
    · cases event <;> simp [muteView, mutesTo, connectedAfter, here]
  · rename_i heard
    have hearing : s.hears other = true := by
      by_cases zero : other = 0
      · simp [hears, zero]
      · have known : s.rt.find other ≠ none := fun none => heard ⟨zero, none⟩
        simp [hears, Option.isSome_iff_ne_none.mpr known]
    cases event with
    | connected data =>
      have same : ((s.handleConnected other data).stateOf cid).inputMuted =
          (s.stateOf cid).inputMuted := muted_handleConnected cid
      dsimp only
      rw [muteView, same, connected_handleConnected]
      by_cases here : other = cid
      · subst here
        simp [mutesTo, connectedAfter, hearing]
      · simp [mutesTo, connectedAfter, here]
    | connectFailed kind message retried =>
      dsimp only
      rw [muteView, handleConnectFailed, stateOf_setSession]
      by_cases here : other = cid
      · subst here
        simp [mutesTo, connectedAfter, hearing]
      · simp [mutesTo, connectedAfter, here, Ne.symm here]
    | disconnected expected reason retried =>
      dsimp only
      rw [muteView, stateOf_handleDisconnected]
      by_cases here : other = cid
      · subst here
        cases reset : s.resets other <;>
          simp [mutesTo, connectedAfter, reset, disconnectedState, TsConnectionState.new]
      · simp [mutesTo, connectedAfter, here, Ne.symm here]
    | error | clientJoined | clientLeft =>
      exact Keeps.unwritten (keeps_setSession rfl) rfl rfl
    | channelsUpdated =>
      dsimp only
      split
      · exact Keeps.unwritten (keeps_setSession rfl) rfl rfl
      · rfl
    | other notice =>
      cases notice with
      | none => rfl
      | some notice => exact Keeps.unwritten (keeps_setSession rfl) rfl rfl

/-- A write of the mute alone. -/
theorem view_of_mute {action : Action} (muted : (t.stateOf cid).inputMuted =
      (s.mutesTo cid action).getD (s.stateOf cid).inputMuted)
    (keeps : Keeps TsConnectionState.connected s t)
    (stays : s.connectedAfter cid action = (s.stateOf cid).connected) :
    muteView (t.stateOf cid) =
      ((s.mutesTo cid action).getD (s.stateOf cid).inputMuted, s.connectedAfter cid action) := by
  rw [muteView, muted, keeps cid, stays]

theorem muteView_step {action : Action} (taken : s.step action = some t) (cid : ConnectionId) :
    muteView (t.stateOf cid) =
      ((s.mutesTo cid action).getD (s.stateOf cid).inputMuted, s.connectedAfter cid action) := by
  cases action with
  | toggleInputMute other =>
    cases taken
    refine view_of_mute ?_ (keeps_toggleInputMute fun _ _ => rfl) rfl
    rw [muted_toggleInputMute, mutesTo]
    simp only [eq_comm (a := cid)]
    split <;> rfl
  | setFullMute other muted =>
    cases taken
    refine view_of_mute ?_ (keeps_setFullMute fun _ => rfl) rfl
    rw [muted_setFullMute, mutesTo]
    simp only [eq_comm (a := cid)]
    split <;> rfl
  | setFullMuteAll muted =>
    cases taken
    refine view_of_mute ?_ (keeps_setFullMuteAll fun _ => rfl) rfl
    rw [muted_setFullMuteAll, mutesTo]
    split <;> rfl
  | notificationMute muted =>
    cases taken
    refine view_of_mute ?_ (keeps_notificationMute fun _ _ => rfl) rfl
    rw [muted_notificationMute, mutesTo]
    split <;> rfl
  | onAudioFocusLost =>
    cases taken
    refine view_of_mute ?_ (keeps_onAudioFocusLost fun _ _ => rfl) rfl
    rw [muted_onAudioFocusLost, mutesTo]
    split <;> rfl
  | onAudioFocusRegained =>
    cases taken
    refine view_of_mute ?_ (keeps_onAudioFocusRegained fun _ _ => rfl) rfl
    rw [muted_onAudioFocusRegained, mutesTo]
    split <;> rfl
  | resumeMuted =>
    cases taken
    refine view_of_mute ?_ (keeps_resumeMuted fun _ => rfl) rfl
    rw [muted_resumeMuted, mutesTo]
    split <;> rfl
  | cancelConnect other =>
    cases taken
    rw [muteView, stateOf_cancelConnect]
    by_cases here : other = cid
    · simp [mutesTo, connectedAfter, here, TsConnectionState.new]
    · simp [mutesTo, connectedAfter, here, Ne.symm here]
  | event other event => cases taken; exact muteView_handleEvent
  | loadAudioPreferences =>
    cases taken
    exact Keeps.unwritten (keeps_loadAudioPreferences fun _ => rfl) rfl rfl
  | loadHistoryPreferences =>
    cases taken
    exact Keeps.unwritten (keeps_loadHistoryPreferences fun _ => rfl) rfl rfl
  | openSession =>
    cases taken
    exact Keeps.unwritten (keeps_openSession (fun _ _ => rfl) fun _ => rfl) rfl rfl
  | selectSession => cases taken; exact Keeps.unwritten keeps_selectSession rfl rfl
  | disconnect =>
    cases taken
    exact Keeps.unwritten (keeps_disconnect (fun _ => rfl) fun _ => rfl) rfl rfl
  | retry => cases taken; exact Keeps.unwritten (keeps_retry fun _ => rfl) rfl rfl
  | toggleOutputMute =>
    cases taken
    exact Keeps.unwritten (keeps_toggleOutputMute fun _ _ => rfl) rfl rfl
  | togglePttMode =>
    cases taken
    exact Keeps.unwritten (keeps_togglePttMode fun _ _ => rfl) rfl rfl
  | setPttPressed =>
    cases taken
    exact Keeps.unwritten (keeps_setPttPressed fun _ => rfl) rfl rfl
  | setVadThreshold =>
    cases taken
    exact Keeps.unwritten (keeps_setVadThreshold fun _ => rfl) rfl rfl
  | setVadEnabled =>
    cases taken
    exact Keeps.unwritten (keeps_setVadEnabled fun _ => rfl) rfl rfl
  | setMicGain =>
    cases taken
    exact Keeps.unwritten (keeps_setMicGain fun _ => rfl) rfl rfl
  | applyWhisperPreferences =>
    cases taken
    exact Keeps.unwritten (keeps_applyWhisperPreferences fun _ => rfl) rfl rfl
  | setWhisperTargets =>
    cases taken
    exact Keeps.unwritten (keeps_setWhisperTargets fun _ _ _ _ => rfl) rfl rfl
  | setWhisperActive =>
    cases taken
    exact Keeps.unwritten (keeps_setWhisperActive (fun _ _ => rfl) fun _ _ => rfl) rfl rfl
  | setWhisperAllowlistEnabled =>
    cases taken
    exact Keeps.unwritten (keeps_setWhisperAllowlistEnabled fun _ => rfl) rfl rfl
  | toggleWhisperAllowedUid =>
    cases taken
    exact Keeps.unwritten (keeps_toggleWhisperAllowedUid fun _ _ => rfl) rfl rfl
  | reconcileRoster =>
    cases taken
    exact Keeps.unwritten (keeps_reconcileRoster (fun _ _ _ => rfl) fun _ _ _ _ => rfl) rfl rfl
  | permissionAnswered => exact Keeps.unwritten (keeps_permissionAnswered taken) rfl rfl
  | orphanAnswered => exact Keeps.unwritten (keeps_orphanAnswered taken) rfl rfl
  | handleMicData => cases taken; exact Keeps.unwritten keeps_handleMicData rfl rfl
  | engineConnected | engineRemoved => cases taken; exact Keeps.unwritten .refl rfl rfl

theorem muted_step {action : Action} (taken : s.step action = some t) (cid : ConnectionId) :
    (t.stateOf cid).inputMuted =
      (s.mutesTo cid action).getD (s.stateOf cid).inputMuted :=
  congrArg Prod.fst (muteView_step taken cid)

theorem connected_step {action : Action} (taken : s.step action = some t) (cid : ConnectionId) :
    (t.stateOf cid).connected = s.connectedAfter cid action :=
  congrArg Prod.snd (muteView_step taken cid)

end Step

end VoiceApp

end Nek0.Source.Voice
