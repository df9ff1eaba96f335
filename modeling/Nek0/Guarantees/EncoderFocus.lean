import Nek0.Library.Run
import Nek0.Source.MicUpdates

/-!
# Encoder and focus

The service holds the connection id whose session has the encoder, and an update points
it at the session of the microphone without moving the encoder. The encoder follows the
focus in the runs in which no update moves the service, the microphone is switched on for
a session that the engine has, and neither that session nor the selection goes away
while it is on.
-/

namespace Nek0.Guarantees

open Nek0.Library Nek0.Source.Voice Nek0.Source.Voice.VoiceApp
open Nek0.Source (ConnectionId)

/-- The session that the service has given an encoder. -/
def fed (s : VoiceApp) : Option ConnectionId :=
  s.audioService.bind fun v => if v.running then some v.connectionId else none

/-- While the microphone is on, the selected session has the encoder and no other one
has; without a service no session has one. -/
structure EncoderFollows (s : VoiceApp) : Prop where
  focus : ∀ v cid, s.audioService = some v → v.capturing = true → s.selectedId = some cid →
    (∃ c, s.engine.sessions cid = some c ∧ c.audioEncoder = true) ∧
      ∀ other c, other ≠ cid → s.engine.sessions other = some c → c.audioEncoder = false
  idle : s.audioService = none → ∀ cid c, s.engine.sessions cid = some c → c.audioEncoder = false

/-- An update finds a service that runs at the session of the microphone, and switches on
one that runs for a session that the engine has. -/
def follows (s : VoiceApp) : Bool :=
  s.audioService.all fun v =>
    (!v.running || s.micConnectionId = v.connectionId) &&
      (!s.shouldMicBeActive || s.micEnabled ||
        (v.running && (s.engine.sessions v.connectionId).isSome))

/-- Every update follows, and the selection and the session of a microphone that is on
stay. -/
def staysFocused (s : VoiceApp) : Action → Bool
  | .openSession _ => s.audioService.all fun v => !v.capturing
  | .selectSession cid =>
    s.audioService.all fun v => !v.capturing || cid ∉ s.order || cid = v.connectionId
  | .engineRemoved cid => s.audioService.all fun v => !v.capturing || cid ≠ v.connectionId
  | action => checksUpdates follows s action

structure Focused (s : VoiceApp) : Prop where
  encoders : ∀ cid c, s.engine.sessions cid = some c → (c.audioEncoder = true ↔ fed s = some cid)
  issued : ∀ cid c, s.engine.sessions cid = some c → cid < s.engine.nextConnectionId
  fedIssued : ∀ cid, fed s = some cid → cid ≠ 0 ∧ cid < s.engine.nextConnectionId
  capture : ∀ v, s.audioService = some v → v.capturing = true →
    v.running = true ∧ (s.engine.sessions v.connectionId).isSome = true ∧
      ∀ cid, s.selectedId = some cid → cid = v.connectionId

theorem Focused.follows {s : VoiceApp} (focused : Focused s) : EncoderFollows s := by
  constructor
  · intro v cid serving on selected
    obtain ⟨running, present, focus⟩ := focused.capture v serving on
    obtain rfl := focus cid selected
    have feeds : fed s = some v.connectionId := by simp [fed, serving, running]
    obtain ⟨c, found⟩ := Option.isSome_iff_exists.mp present
    refine ⟨⟨c, found, (focused.encoders _ c found).mpr feeds⟩, fun other d different held => ?_⟩
    rw [← Bool.not_eq_true, focused.encoders other d held, feeds, Option.some.injEq]
    exact different.symm
  · intro idle cid c found
    rw [← Bool.not_eq_true, focused.encoders cid c found]
    simp [fed, idle]

section Focused

variable {s t : VoiceApp}

theorem isSome_of_engineKeeps {γ : Type*} {view : TsConnection → γ}
    (engine : EngineKeeps view s t) (cid : ConnectionId) :
    (t.engine.sessions cid).isSome = (s.engine.sessions cid).isSome := by
  have same := congrArg Option.isSome (engine cid)
  simpa using same

/-- A step that leaves the service alone and, while the microphone is on, selects no
session but its own. -/
theorem focused_keeps (focused : Focused s) (service : t.audioService = s.audioService)
    (next : t.engine.nextConnectionId = s.engine.nextConnectionId)
    (engine : EngineKeeps (·.audioEncoder) s t)
    (selected : ∀ v, s.audioService = some v → v.capturing = true → ∀ cid,
      t.selectedId = some cid → s.selectedId = some cid ∨ cid = v.connectionId) : Focused t := by
  have feeds : fed t = fed s := by simp only [fed, service]
  have before (cid : ConnectionId) (d : TsConnection) (found : t.engine.sessions cid = some d) :
      ∃ c, s.engine.sessions cid = some c ∧ c.audioEncoder = d.audioEncoder := by
    have same := engine cid
    rw [found, Option.map_some] at same
    exact Option.map_eq_some_iff.mp same.symm
  constructor
  · intro cid d found
    obtain ⟨c, held, same⟩ := before cid d found
    rw [← same, feeds]
    exact focused.encoders cid c held
  · intro cid d found
    obtain ⟨c, held, -⟩ := before cid d found
    exact next ▸ focused.issued cid c held
  · intro cid feeding
    exact next ▸ focused.fedIssued cid (feeds ▸ feeding)
  · intro v serving on
    rw [service] at serving
    obtain ⟨running, present, focus⟩ := focused.capture v serving on
    refine ⟨running, (isSome_of_engineKeeps engine _).trans present, fun cid picked => ?_⟩
    exact (selected v serving on cid picked).elim (focus cid) id

/-- A step that keeps service and tabs. -/
theorem focused_quiet (focused : Focused s) (service : t.audioService = s.audioService)
    (tabs : SameTabs s t) (engine : EngineKeeps (·.audioEncoder) s t) : Focused t :=
  focused_keeps focused service tabs.next engine
    fun _ _ _ _ picked => .inl (tabs.selected ▸ picked)

/-- A session gets the encoder together with the service. -/
theorem focused_startAudioService (focused : Focused s) (idle : s.audioService = none) :
    Focused s.startAudioService := by
  have unfed : fed s = none := by simp [fed, idle]
  simp only [startAudioService]
  split
  · exact focused
  · rename_i target
    have feeds (cid : ConnectionId) : fed { s with
        audioService := some ⟨s.micConnectionId, (s.engine.sessions s.micConnectionId).isSome, false, 0⟩
        engine := s.engine.startAudio s.micConnectionId } = some cid ↔
          (s.engine.sessions s.micConnectionId).isSome = true ∧ s.micConnectionId = cid := by
      simp [fed]
    constructor
    · intro cid c found
      rw [feeds]
      by_cases here : cid = s.micConnectionId
      · subst here
        simp only [VoiceEngine.startAudio, VoiceEngine.modify, Function.update_self,
          Option.map_eq_some_iff] at found
        obtain ⟨d, held, rfl⟩ := found
        simp [held]
      · simp only [VoiceEngine.startAudio, VoiceEngine.modify, Function.update_of_ne here] at found
        simpa [unfed, Ne.symm here] using focused.encoders cid c found
    · intro cid c found
      simp only [VoiceEngine.startAudio, VoiceEngine.modify, Function.update_apply] at found
      split at found
      · rename_i here
        obtain ⟨d, held, -⟩ := Option.map_eq_some_iff.mp found
        rw [here]
        exact focused.issued _ d held
      · exact focused.issued cid c found
    · intro cid feeding
      rw [feeds] at feeding
      obtain ⟨present, rfl⟩ := feeding
      obtain ⟨c, held⟩ := Option.isSome_iff_exists.mp present
      exact ⟨target, focused.issued _ c held⟩
    · intro v serving on
      cases serving
      cases on

/-- Only the session that the service feeds can have the encoder. -/
theorem unencoded_of_fed (focused : Focused s) {cid : ConnectionId} {c : TsConnection}
    (found : s.engine.sessions cid = some c) (starved : fed s ≠ some cid) :
    c.audioEncoder = false := by
  rw [← Bool.not_eq_true, focused.encoders cid c found]
  exact starved

/-- Without a service nothing is fed. -/
theorem focused_unserved (idle : t.audioService = none)
    (encoders : ∀ cid c, t.engine.sessions cid = some c → c.audioEncoder = false)
    (issued : ∀ cid c, t.engine.sessions cid = some c → cid < t.engine.nextConnectionId) :
    Focused t where
  encoders cid c found := by simp [encoders cid c found, fed, idle]
  issued := issued
  fedIssued cid feeding := by simp [fed, idle] at feeding
  capture v serving := by simp [idle] at serving

/-- The service takes the encoder with it. -/
theorem focused_stopAudioService (focused : Focused s) : Focused s.stopAudioService := by
  simp only [stopAudioService]
  split
  · exact focused_quiet focused rfl ⟨rfl, rfl, rfl, fun _ => id⟩ .refl
  · rename_i v serving
    split
    · rename_i running
      have feeds : fed s = some v.connectionId := by simp [fed, serving, running]
      rw [if_neg (focused.fedIssued _ feeds).1]
      refine focused_unserved rfl (fun cid c found => ?_) fun cid c found => ?_
      all_goals
        simp only [VoiceEngine.stopAudio, VoiceEngine.modify, Function.update_apply] at found
        split at found
      · obtain ⟨d, -, rfl⟩ := Option.map_eq_some_iff.mp found
        rfl
      · rename_i other
        refine unencoded_of_fed focused found fun feeding => other ?_
        rw [feeds, Option.some.injEq] at feeding
        exact feeding.symm
      · rename_i here
        obtain ⟨d, held, -⟩ := Option.map_eq_some_iff.mp found
        rw [here]
        exact focused.issued _ d held
      · exact focused.issued cid c found
    · rename_i halted
      have starved : fed s = none := by simp [fed, serving, halted]
      refine focused_unserved rfl (fun cid c found => ?_) focused.issued
      exact unencoded_of_fed focused found (by simp [starved])

/-- The service goes on with the session that it feeds. -/
theorem focused_service {v w : AudioService} {enabled : Bool} (focused : Focused s)
    (serving : s.audioService = some v) (running : w.running = v.running)
    (stays : v.running = true → w.connectionId = v.connectionId)
    (on : w.capturing = true → v.capturing = true ∨
      (v.running = true ∧ (s.engine.sessions v.connectionId).isSome = true ∧
        ∀ cid, s.selectedId = some cid → cid = w.connectionId)) :
    Focused { s with audioService := some w, micEnabled := enabled } := by
  have feeds : fed { s with audioService := some w, micEnabled := enabled } = fed s := by
    simp only [fed, serving, Option.bind_some, running]
    split
    · rename_i runs
      rw [stays runs]
    · rfl
  refine ⟨fun cid c found => ?_, focused.issued, fun cid feeding => ?_,
    fun w' serves captures => ?_⟩
  · rw [feeds]
    exact focused.encoders cid c found
  · exact focused.fedIssued cid (feeds ▸ feeding)
  · cases serves
    cases on captures with
    | inl before =>
      obtain ⟨runs, present, focus⟩ := focused.capture v serving before
      exact ⟨running.trans runs, stays runs ▸ present, fun cid picked =>
        (focus cid picked).trans (stays runs).symm⟩
    | inr fresh =>
      obtain ⟨runs, present, focus⟩ := fresh
      exact ⟨running.trans runs, stays runs ▸ present, focus⟩

theorem selected_mic {cid : ConnectionId} (selected : s.selectedId = some cid) :
    cid = s.micConnectionId := by
  simp [micConnectionId, selected]

theorem focused_updateMicState (focused : Focused s) (followed : follows s = true) :
    Focused s.updateMicState := by
  simp only [updateMicState]
  split
  · rename_i idle
    split
    · exact focused_startAudioService focused idle
    · exact focused
  · rename_i v serving
    simp only [follows, serving, Option.all_some, Bool.and_eq_true, Bool.or_eq_true,
      Bool.not_eq_true', decide_eq_true_eq] at followed
    obtain ⟨stays, starts⟩ := followed
    have stays : v.running = true → s.micConnectionId = v.connectionId :=
      fun running => stays.resolve_left (by simp [running])
    split
    · rename_i switching
      rw [Bool.and_eq_true, Bool.not_eq_true'] at switching
      have should : s.shouldMicBeActive = true := switching.1
      have off : s.micEnabled = false := switching.2
      obtain ⟨running, present⟩ := starts.resolve_left (by simp [should, off])
      exact focused_service focused serving rfl stays fun _ =>
        .inr ⟨running, present, fun _ => selected_mic⟩
    · split
      · refine focused_service focused serving rfl stays fun waiting => .inl ?_
        simp only [AudioService.capturing, Bool.false_or] at waiting ⊢
        rw [waiting, Bool.or_true]
      · exact focused_service focused serving rfl stays .inl

theorem focused_permissionAnswered {granted : Bool} (focused : Focused s)
    (answered : s.permissionAnswered granted = some t) : Focused t := by
  obtain ⟨v, serving, waiting, rfl⟩ := permissionAnswered_cases answered
  refine focused_service focused serving rfl (fun _ => rfl) fun _ => .inl ?_
  simp [AudioService.capturing, Nat.pos_of_ne_zero waiting]

theorem focused_write {cid : ConnectionId} {next : TsConnectionState} (focused : Focused s) :
    Focused (s.setSession cid next) :=
  focused_quiet focused rfl sameTabs_setSession .refl

theorem focused_disconnect {cid : ConnectionId} (focused : Focused s) :
    Focused (s.disconnect cid) := by
  simp only [disconnect]
  repeat' split
  · exact focused_write focused
  · exact focused_write (focused_stopAudioService (focused_write focused))
  · exact focused_write (focused_write focused)

theorem focused_handleConnected {cid : ConnectionId} {data : ConnectedEvent}
    (focused : Focused s) : Focused (s.handleConnected cid data) := by
  have hydrated {s : VoiceApp} (focused : Focused s) :
      Focused (s.hydrateServerMessages cid data) := by
    simp only [hydrateServerMessages]
    repeat' split
    · exact focused_disconnect (focused_write focused)
    · exact focused_write focused
    · exact focused
  simp only [handleConnected]
  split
  · rename_i idle
    exact focused_startAudioService (hydrated (focused_write focused))
      (Option.isNone_iff_eq_none.mp idle)
  · exact hydrated (focused_write focused)

theorem focused_handleDisconnected {cid : ConnectionId} {expected : Bool} {reason : String}
    {retried : Bool} (focused : Focused s) :
    Focused (s.handleDisconnected cid expected reason retried) := by
  simp only [handleDisconnected]
  repeat' split
  · exact focused
  · exact focused_write (focused_stopAudioService focused)
  · exact focused_stopAudioService focused

theorem focused_handleEvent {cid : ConnectionId} {event : TsEngineEvent} (focused : Focused s) :
    Focused (s.handleEvent cid event) := by
  simp only [handleEvent]
  split
  · exact focused
  · cases event with
    | connected => exact focused_handleConnected focused
    | disconnected => exact focused_handleDisconnected focused
    | connectFailed | error | clientJoined | clientLeft => exact focused_write focused
    | channelsUpdated =>
      dsimp only
      split
      · exact focused_write focused
      · exact focused
    | other notice =>
      cases notice with
      | none => exact focused
      | some notice => exact focused_write focused

/-- The new session has no encoder, and takes the selection while the microphone is off. -/
theorem focused_openSession {savedMicGain : Option ℚ} (focused : Focused s)
    (off : (s.audioService.all fun v => !v.capturing) = true) :
    Focused (s.openSession savedMicGain) := by
  have opened : Focused { s with
      engine := s.engine.connect
      rt := s.rt.insert s.engine.nextConnectionId ⟨false⟩ } := by
    constructor
    · intro cid c found
      simp only [VoiceEngine.connect, Function.update_apply] at found
      split at found
      · rename_i here
        cases found
        refine iff_of_false Bool.false_ne_true fun feeding => ?_
        exact absurd (focused.fedIssued cid feeding).2 (by rw [here]; exact Nat.lt_irrefl _)
      · exact focused.encoders cid c found
    · intro cid c found
      simp only [VoiceEngine.connect, Function.update_apply] at found
      split at found
      · rename_i here
        rw [here]
        exact Nat.lt_succ_self _
      · exact Nat.lt_succ_of_lt (focused.issued cid c found)
    · intro cid feeding
      obtain ⟨target, issued⟩ := focused.fedIssued cid feeding
      exact ⟨target, Nat.lt_succ_of_lt issued⟩
    · intro v serving on
      rw [Option.all_eq_true] at off
      have silent := off v serving
      simp [on] at silent
  refine focused_keeps opened ?_ ?_ ?_ fun v serving on => ?_
  · cases savedMicGain <;> rfl
  · cases savedMicGain <;> rfl
  · cases savedMicGain with
    | none => exact .refl
    | some gain => exact engineKeeps_modify (by intro _; rfl) rfl
  · rw [Option.all_eq_true] at off
    have silent := off v serving
    simp [on] at silent

theorem focused_engineRemoved {cid : ConnectionId} (focused : Focused s)
    (kept : (s.audioService.all fun v => !v.capturing || cid ≠ v.connectionId) = true) :
    Focused { s with engine := s.engine.remove cid } := by
  have held (queried : ConnectionId) (c : TsConnection)
      (found : (s.engine.remove cid).sessions queried = some c) :
      s.engine.sessions queried = some c := by
    simp only [VoiceEngine.remove, Function.update_apply] at found
    split at found
    · cases found
    · exact found
  refine ⟨fun queried c found => focused.encoders queried c (held queried c found),
    fun queried c found => focused.issued queried c (held queried c found),
    focused.fedIssued, fun v serving on => ?_⟩
  obtain ⟨running, present, focus⟩ := focused.capture v serving on
  rw [Option.all_eq_true] at kept
  have other : cid ≠ v.connectionId := by simpa [on] using kept v serving
  exact ⟨running, by simpa [VoiceEngine.remove, other.symm] using present, focus⟩

theorem focused_step {action : Action} (focused : Focused s)
    (stays : staysFocused s action = true) (taken : s.step action = some t) : Focused t := by
  cases updates : action.updatesMic with
  | true =>
    have checked : checksUpdates follows s action = true := by
      cases action <;> first | exact stays | cases updates
    refine updates_rule (fun s r focused flagged followed => ?_) (fun s cid change focused => ?_)
      focused updates checked taken
    · exact focused_updateMicState (focused_quiet focused flagged.mic.audioService flagged.tabs
        flagged.encoders) followed
    · exact focused_quiet focused rfl sameTabs_modifyRt .refl
  | false =>
    have settings (spares : action.sparesMic = true) (moves : action.movesTabs = false)
        (wired : EngineKeeps wiring s t) : Focused t :=
      focused_quiet focused (sameMic_step spares taken).audioService (sameTabs_step moves taken)
        (engineKeeps_of_wiring wired fun w => w.2.2.1)
    cases action with
    | toggleInputMute | setFullMute | setFullMuteAll | togglePttMode | setPttPressed
    | onAudioFocusLost | onAudioFocusRegained | notificationMute => cases updates
    | openSession => cases taken; exact focused_openSession focused stays
    | engineRemoved => cases taken; exact focused_engineRemoved focused stays
    | event => cases taken; exact focused_handleEvent focused
    | disconnect => cases taken; exact focused_disconnect focused
    | permissionAnswered => exact focused_permissionAnswered focused taken
    | orphanAnswered =>
      refine focused_quiet focused ?_ (sameTabs_step rfl taken)
        (engineKeeps_orphanAnswered taken)
      obtain ⟨-, rfl⟩ := orphanAnswered_cases taken
      rfl
    | handleMicData =>
      cases taken
      refine focused_quiet focused ?_ sameTabs_handleMicData engineKeeps_handleMicData
      simp only [handleMicData]
      repeat' split
      all_goals simp only [*]
    | selectSession cid =>
      cases taken
      simp only [selectSession]
      split
      · rename_i listed
        refine focused_keeps focused rfl rfl .refl fun v serving on queried picked => .inr ?_
        cases picked
        have own := (Option.all_eq_true ..).mp stays v serving
        simpa [on, listed] using own
      · exact focused
    | cancelConnect cid =>
      cases taken
      refine focused_keeps focused rfl rfl .refl fun _ _ _ queried picked => .inl ?_
      simp only [cancelConnect] at picked
      split at picked
      · cases picked
      · exact picked
    | loadAudioPreferences => cases taken; exact settings rfl rfl engineKeeps_loadAudioPreferences
    | loadHistoryPreferences =>
      cases taken
      exact settings rfl rfl engineKeeps_loadHistoryPreferences
    | resumeMuted => cases taken; exact settings rfl rfl engineKeeps_resumeMuted
    | retry => cases taken; exact settings rfl rfl .refl
    | toggleOutputMute cid =>
      cases taken
      exact focused_quiet focused rfl (sameTabs_write rfl)
        (engineKeeps_modify (encoder_setMuted _ _) rfl)
    | setVadThreshold => cases taken; exact settings rfl rfl wiring_setVadThreshold
    | setVadEnabled => cases taken; exact settings rfl rfl wiring_setVadEnabled
    | setMicGain => cases taken; exact settings rfl rfl wiring_setMicGain
    | applyWhisperPreferences => cases taken; exact settings rfl rfl wiring_applyWhisperPreferences
    | setWhisperTargets => cases taken; exact settings rfl rfl wiring_setWhisperTargetsCall
    | setWhisperActive => cases taken; exact settings rfl rfl wiring_setWhisperActive
    | setWhisperAllowlistEnabled =>
      cases taken
      exact settings rfl rfl wiring_setWhisperAllowlistEnabled
    | toggleWhisperAllowedUid => cases taken; exact settings rfl rfl wiring_toggleWhisperAllowedUid
    | reconcileRoster => cases taken; exact settings rfl rfl wiring_reconcileRoster
    | engineConnected =>
      cases taken
      exact focused_quiet focused rfl (sameTabs_engine rfl)
        (engineKeeps_modify (by intro _; rfl) rfl)

end Focused

/-- In every run that stays focused, the encoder follows the focus. -/
theorem encoder_follows_focus (actions : List Action) (s : VoiceApp)
    (run : Run VoiceApp.step (fun s action => staysFocused s action = true) .build actions s) :
    EncoderFollows s := by
  have initial : Focused .build :=
    focused_unserved rfl (fun _ _ found => by cases found) fun _ _ found => by cases found
  exact (run.invariant Focused initial fun _ _ _ before stays taken =>
    focused_step before stays taken).follows

/-- One session is muted and unmuted. -/
def focusedHistory : List Action :=
  [.openSession none, .engineConnected 1 5, .event 1 (.connected ⟨some 5, "", 0, [], []⟩),
    .toggleInputMute 1, .toggleInputMute 1, .permissionAnswered true]

theorem microphone_has_encoder :
    ∃ s v, s.audioService = some v ∧ v.listening = true ∧ s.selectedId = some 1 ∧
      EncoderFollows s := by
  obtain ⟨s, run, reached⟩ := reaches_of_guarded staysFocused (show
    (exec (guarded staysFocused VoiceApp.step) .build focusedHistory).any (fun s =>
      s.audioService.any (·.listening) && s.selectedId == some 1) = true by
    decide +kernel)
  simp only [Bool.and_eq_true, Option.any_eq_true, beq_iff_eq] at reached
  obtain ⟨⟨v, serving, listening⟩, selected⟩ := reached
  exact ⟨s, v, serving, listening, selected, encoder_follows_focus focusedHistory s run⟩

/-- The service was started for session 1 when the microphone moves to session 2. -/
def tabHistory : List Action :=
  [.openSession none, .engineConnected 1 5, .event 1 (.connected ⟨some 5, "", 0, [], []⟩),
    .openSession none, .engineConnected 2 7, .event 2 (.connected ⟨some 7, "", 0, [], []⟩),
    .toggleInputMute 2, .toggleInputMute 2, .permissionAnswered true]

/-- The microphone is on for a session without an encoder, and the other one keeps its. -/
theorem encoder_stays_behind :
    ∃ s c d, Run VoiceApp.step anyStep .build tabHistory s ∧
      s.audioService = some ⟨2, true, true, 0⟩ ∧ s.selectedId = some 2 ∧
      s.engine.sessions 1 = some c ∧ c.audioEncoder = true ∧
      s.engine.sessions 2 = some d ∧ d.audioEncoder = false ∧ ¬ EncoderFollows s := by
  obtain ⟨s, run, reached⟩ := reaches_of_exec anyStep (fun _ _ _ => trivial) (show
    (exec VoiceApp.step .build tabHistory).any (fun s =>
      s.audioService == some ⟨2, true, true, 0⟩ && s.selectedId == some 2 &&
        (s.engine.sessions 1).any (·.audioEncoder) &&
        (s.engine.sessions 2).any (!·.audioEncoder)) = true by
    decide +kernel)
  simp only [Bool.and_eq_true, beq_iff_eq, Option.any_eq_true, Bool.not_eq_true'] at reached
  obtain ⟨⟨⟨serving, selected⟩, c, first, encoder⟩, d, second, silent⟩ := reached
  refine ⟨s, c, d, run, serving, selected, first, encoder, second, silent, fun ok => ?_⟩
  obtain ⟨⟨d', found, present⟩, -⟩ := ok.focus _ 2 serving rfl selected
  rw [second, Option.some.injEq] at found
  rw [← found, silent] at present
  cases present

end Nek0.Guarantees
