import Nek0.Library.Run
import Nek0.Source.MicUpdates

/-!
# Sessions beside each other

What is done for one session leaves the selected one alone, with three exceptions: a
disconnect stops the one microphone, a reconnect moves the selection, and the settings
that `connect` loads go to every session.
-/

namespace Nek0.Guarantees

open Nek0.Library Nek0.Source.Voice Nek0.Source.Voice.VoiceApp
open Nek0.Source (ConnectionId)

/-- What the engine and the app do for session `a` by themselves: its events, its poll,
and the parts of the `connect` that its timer or the network calls. -/
def onBehalf (a : ConnectionId) : Action → Bool
  | .event cid _ => cid = a
  | .reconcileRoster cid _ => cid = a
  | .engineConnected cid _ => cid = a
  | .engineRemoved cid => cid = a
  | .retry cid => cid = a
  | .loadAudioPreferences _ => true
  | .loadHistoryPreferences _ => true
  | .openSession _ => true
  | _ => false

/-- The microphone is on for the session, or waits for the permission. -/
def captures (b : ConnectionId) (s : VoiceApp) : Bool :=
  s.audioService.any fun v => v.connectionId = b && v.capturing

/-- Session `b` is as it was, selected as it was, and on the microphone as it was. -/
structure LeftAlone (b : ConnectionId) (s t : VoiceApp) : Prop where
  state : t.stateOf b = s.stateOf b
  selected : t.selectedId = s.selectedId
  capture : captures b t = captures b s

/-- A disconnect counts unless the session is connecting again; it needs a session
without the microphone. No session is opened, and the settings loaded are those that the
other session has, which shows no error. -/
def spares (a b : ConnectionId) (s : VoiceApp) : Action → Bool
  | .event _ (.disconnected ..) => (s.stateOf a).connecting || !captures b s
  | .loadAudioPreferences audio =>
    (s.sessions.find b).all fun st => st.audio = audio && st.notice = .clear
  | .loadHistoryPreferences history =>
    (s.sessions.find b).all fun st => st.history = history && st.notice = .clear
  | .openSession _ => false
  | _ => true

section LeftAlone

variable {a b : ConnectionId} {s t u : VoiceApp}

theorem LeftAlone.refl : LeftAlone b s s := ⟨rfl, rfl, rfl⟩

theorem LeftAlone.trans (first : LeftAlone b s t) (second : LeftAlone b t u) :
    LeftAlone b s u :=
  ⟨second.state.trans first.state, second.selected.trans first.selected,
    second.capture.trans first.capture⟩

theorem leftAlone_setSession {next : TsConnectionState} (different : a ≠ b) :
    LeftAlone b s (s.setSession a next) :=
  ⟨stateOf_setSession_of_ne _ _ _ _ different.symm, rfl, rfl⟩

theorem leftAlone_engine {engine : VoiceEngine} : LeftAlone b s { s with engine := engine } :=
  ⟨rfl, rfl, rfl⟩

/-- A service that has just started does not listen yet. -/
theorem leftAlone_startAudioService (idle : s.audioService = none) :
    LeftAlone b s s.startAudioService := by
  constructor
  · simp only [stateOf, startAudioService_sessions]
  · exact startAudioService_selectedId s
  · simp only [startAudioService, captures]
    split
    · rfl
    · simp [idle, AudioService.capturing]

theorem leftAlone_pruneWhisperTargets (different : a ≠ b) :
    LeftAlone b s (s.pruneWhisperTargets a) := by
  simp only [pruneWhisperTargets, VoiceApp.setWhisperTargets]
  repeat' split
  · exact .refl
  · exact .refl
  · exact leftAlone_engine.trans (leftAlone_setSession different)
  · exact leftAlone_engine.trans (leftAlone_setSession different)

theorem leftAlone_reconcileRoster {clients : List TsClient} (different : a ≠ b) :
    LeftAlone b s (s.reconcileRoster a clients) := by
  simp only [reconcileRoster]
  split
  · exact (leftAlone_setSession different).trans (leftAlone_pruneWhisperTargets different)
  · exact leftAlone_pruneWhisperTargets different

/-- The microphone belongs to the selected session, so it is not stopped. -/
theorem leftAlone_disconnect (different : a ≠ b) (selected : s.selectedId = some b) :
    LeftAlone b s (s.disconnect a) := by
  have mic : (s.setSession a (s.stateOf a).copy).micConnectionId ≠ a := by
    simpa [micConnectionId, selected] using different.symm
  simp only [disconnect, if_neg mic]
  split
  · exact leftAlone_setSession different
  · exact (leftAlone_setSession different).trans (leftAlone_setSession different)

theorem leftAlone_hydrateServerMessages {data : ConnectedEvent} (different : a ≠ b)
    (selected : s.selectedId = some b) : LeftAlone b s (s.hydrateServerMessages a data) := by
  simp only [hydrateServerMessages]
  repeat' split
  · exact (leftAlone_setSession different).trans (leftAlone_disconnect different selected)
  · exact leftAlone_setSession different
  · exact .refl

theorem leftAlone_handleConnected {data : ConnectedEvent} (different : a ≠ b)
    (selected : s.selectedId = some b) : LeftAlone b s (s.handleConnected a data) := by
  have hydrated : LeftAlone b s
      ((s.setSession a (connectedState (s.stateOf a) data)).hydrateServerMessages a data) :=
    (leftAlone_setSession different).trans (leftAlone_hydrateServerMessages different selected)
  simp only [handleConnected]
  split
  · rename_i idle
    exact hydrated.trans (leftAlone_startAudioService (Option.isNone_iff_eq_none.mp idle))
  · exact hydrated

theorem stopAudioService_audioService : s.stopAudioService.audioService = none := by
  simp only [stopAudioService]
  repeat' split
  · assumption
  all_goals rfl

/-- A disconnect takes the microphone from whoever has it. -/
theorem leftAlone_handleDisconnected_iff {expected : Bool} {reason : String} {retried : Bool}
    (different : a ≠ b) (known : (s.rt.find a).isSome = true) :
    LeftAlone b s (s.handleDisconnected a expected reason retried) ↔
      ((s.stateOf a).connecting || !captures b s) = true := by
  simp only [handleDisconnected, stopAudioService_rt, known, if_true]
  cases connecting : (s.stateOf a).connecting with
  | true => simpa using .refl
  | false =>
    simp only [Bool.false_eq_true, if_false, Bool.false_or, Bool.not_eq_true']
    constructor
    · intro alone
      have same := alone.capture
      simp only [captures, setSession_audioService, stopAudioService_audioService,
        Option.any_none] at same
      exact same.symm
    · intro free
      refine LeftAlone.trans ⟨?_, stopAudioService_selectedId s, ?_⟩
        (leftAlone_setSession different)
      · simp only [stateOf, stopAudioService_sessions]
      · simp only [free]
        simp only [captures, stopAudioService_audioService, Option.any_none]

theorem leftAlone_handleEvent_iff {event : TsEngineEvent} (different : a ≠ b)
    (known : (s.rt.find a).isSome = true) (selected : s.selectedId = some b) :
    LeftAlone b s (s.handleEvent a event) ↔ spares a b s (.event a event) = true := by
  have handled : ¬ (a ≠ 0 ∧ s.rt.find a = none) := by
    rintro ⟨-, unknown⟩
    simp [unknown] at known
  rw [handleEvent, if_neg handled]
  cases event with
  | disconnected expected reason retried => exact leftAlone_handleDisconnected_iff different known
  | connected data => exact iff_of_true (leftAlone_handleConnected different selected) rfl
  | connectFailed | error | clientJoined | clientLeft =>
    exact iff_of_true (leftAlone_setSession different) rfl
  | channelsUpdated =>
    refine iff_of_true ?_ rfl
    dsimp only
    split
    · exact leftAlone_setSession different
    · exact .refl
  | other notice =>
    refine iff_of_true ?_ rfl
    cases notice with
    | none => exact .refl
    | some notice => exact leftAlone_setSession different

end LeftAlone

section Preferences

variable {s : VoiceApp} {b : ConnectionId} {write : TsConnectionState → TsConnectionState}

/-- What a write to every session leaves alone. -/
theorem writeAll_view {β : Type*} {view : VoiceApp → β}
    (blind : ∀ s cid next, view (VoiceApp.setSession s cid next) = view s)
    (cids : List ConnectionId) :
    view (cids.foldl (fun s cid => s.setSession cid (write (s.stateOf cid))) s) = view s := by
  induction cids generalizing s with
  | nil => rfl
  | cons cid cids ih => rw [List.foldl_cons, ih, blind]

theorem leftAlone_writeAll_iff (write : TsConnectionState → TsConnectionState) :
    LeftAlone b s
        (s.sessions.keys.foldl (fun s cid => s.setSession cid (write (s.stateOf cid))) s) ↔
      ∀ st, s.sessions.find b = some st → write st = st := by
  have written := stateOf_writeAll (s := s) (b := b) write s.sessions.keys s.sessions.nodup
  simp only [s.sessions.mem_keys] at written
  constructor
  · intro alone st found
    have same := alone.state
    rw [written] at same
    simpa [stateOf, found] using same
  · intro fixed
    refine ⟨written.trans ?_, writeAll_view (fun _ _ _ => rfl) _, writeAll_view (fun _ _ _ => rfl) _⟩
    cases found : s.sessions.find b with
    | none => rfl
    | some st => simpa [stateOf, found] using fixed st found

end Preferences

theorem copy_audio_eq_iff {st : TsConnectionState} {audio : AudioPreferences} :
    { st.copy with audio := audio } = st ↔ st.audio = audio ∧ st.notice = .clear := by
  cases st
  simp [TsConnectionState.copy, eq_comm]

theorem copy_history_eq_iff {st : TsConnectionState} {history : HistoryPreferences} :
    { st.copy with history := history } = st ↔ st.history = history ∧ st.notice = .clear := by
  cases st
  simp [TsConnectionState.copy, eq_comm]

theorem leftAlone_loadAudioPreferences_iff {a b : ConnectionId} {s : VoiceApp}
    {audio : AudioPreferences} : LeftAlone b s (s.loadAudioPreferences audio) ↔
      spares a b s (.loadAudioPreferences audio) = true := by
  have unwritten : LeftAlone b s (s.loadAudioPreferences audio) ↔
      ∀ st, s.sessions.find b = some st → { st.copy with audio := audio } = st :=
    leftAlone_writeAll_iff fun st => { st.copy with audio := audio }
  simp only [unwritten, spares, copy_audio_eq_iff, Option.all_eq_true, Bool.and_eq_true,
    decide_eq_true_eq]

theorem leftAlone_loadHistoryPreferences_iff {a b : ConnectionId} {s : VoiceApp}
    {history : HistoryPreferences} : LeftAlone b s (s.loadHistoryPreferences history) ↔
      spares a b s (.loadHistoryPreferences history) = true := by
  have unwritten : LeftAlone b s (s.loadHistoryPreferences history) ↔
      ∀ st, s.sessions.find b = some st → { st.copy with history := history } = st :=
    leftAlone_writeAll_iff fun st => { st.copy with history := history }
  simp only [unwritten, spares, copy_history_eq_iff, Option.all_eq_true, Bool.and_eq_true,
    decide_eq_true_eq]

/-- Whatever the engine or the app does for another session by itself leaves the selected
one alone exactly if it spares it. -/
theorem left_alone_iff_spared (actions : List Action) (s t : VoiceApp) (a b : ConnectionId)
    (action : Action) (run : Run VoiceApp.step anyStep .build actions s) (different : a ≠ b)
    (first : (s.rt.find a).isSome = true) (second : (s.rt.find b).isSome = true)
    (selected : s.selectedId = some b) (behalf : onBehalf a action = true)
    (taken : s.step action = some t) : LeftAlone b s t ↔ spares a b s action = true := by
  have registered : Registered s := run.invariant Registered registered_build
    fun _ _ _ before _ taken => registered_step before taken
  cases action with
  | event cid event =>
    cases taken
    obtain rfl : cid = a := by simpa [onBehalf] using behalf
    exact leftAlone_handleEvent_iff different first selected
  | reconcileRoster cid clients =>
    cases taken
    obtain rfl : cid = a := by simpa [onBehalf] using behalf
    exact iff_of_true (leftAlone_reconcileRoster different) rfl
  | retry cid =>
    cases taken
    obtain rfl : cid = a := by simpa [onBehalf] using behalf
    exact iff_of_true (leftAlone_setSession different) rfl
  | engineConnected | engineRemoved =>
    cases taken
    exact iff_of_true leftAlone_engine rfl
  | loadAudioPreferences audio => cases taken; exact leftAlone_loadAudioPreferences_iff
  | loadHistoryPreferences history => cases taken; exact leftAlone_loadHistoryPreferences_iff
  | openSession savedMicGain =>
    cases taken
    refine iff_of_false (fun leftAlone => ?_) Bool.false_ne_true
    have moved := leftAlone.selected
    rw [openSession_selectedId, selected, Option.some.injEq] at moved
    have given := registered.issued b ((s.rt.mem_keys b).mpr second)
    exact absurd moved given.ne'
  | _ => cases behalf

/-- Session 1 is connected, and session 2 is selected and has the microphone. -/
def sideBySide : List Action :=
  [.openSession none, .engineConnected 1 5, .event 1 (.connected ⟨some 5, "", 0, [], []⟩),
    .openSession none, .engineConnected 2 7, .event 2 (.connected ⟨some 7, "", 0, [], []⟩),
    .toggleInputMute 2, .toggleInputMute 2, .permissionAnswered true]

theorem sideBySide_reached :
    ∃ s, Run VoiceApp.step anyStep .build sideBySide s ∧ (s.rt.find 1).isSome = true ∧
      (s.rt.find 2).isSome = true ∧ s.selectedId = some 2 ∧
      (s.stateOf 1).connecting = false ∧ captures 2 s = true := by
  obtain ⟨s, run, reached⟩ := reaches_of_exec anyStep (fun _ _ _ => trivial) (show
    (exec VoiceApp.step .build sideBySide).any (fun s =>
      (s.rt.find 1).isSome && (s.rt.find 2).isSome && s.selectedId == some 2 &&
        !(s.stateOf 1).connecting && captures 2 s) = true by
    decide +kernel)
  simp only [Bool.and_eq_true, beq_iff_eq, Bool.not_eq_true'] at reached
  obtain ⟨⟨⟨⟨first, second⟩, selected⟩, calm⟩, capture⟩ := reached
  exact ⟨s, run, first, second, selected, calm, capture⟩

theorem refused_session_spares :
    ∃ s t : VoiceApp, s.step (.event 1 (.connectFailed "banned" "no" false)) = some t ∧
      LeftAlone 2 s t := by
  obtain ⟨s, run, first, second, selected, -⟩ := sideBySide_reached
  have spared := left_alone_iff_spared sideBySide s _ 1 2
    (.event 1 (.connectFailed "banned" "no" false)) run (by decide) first second selected rfl rfl
  exact ⟨s, _, rfl, spared.mpr rfl⟩

/-- The first session is lost, and the second one loses the microphone. -/
theorem lost_session_stops_other :
    ∃ s t, Run VoiceApp.step anyStep .build sideBySide s ∧ s.selectedId = some 2 ∧
      s.step (.event 1 (.disconnected false "timeout" true)) = some t ∧
      captures 2 s = true ∧ captures 2 t = false ∧ ¬ LeftAlone 2 s t := by
  obtain ⟨s, run, first, -, selected, calm, capture⟩ := sideBySide_reached
  have stopped : captures 2 (s.handleEvent 1 (.disconnected false "timeout" true)) = false := by
    have known : s.rt.find 1 ≠ none := by
      intro unknown
      simp [unknown] at first
    simp [handleEvent, handleDisconnected, known, calm, first, captures,
      stopAudioService_audioService]
  refine ⟨s, _, run, selected, rfl, capture, stopped, fun alone => ?_⟩
  exact Bool.noConfusion (stopped.symm.trans (alone.capture.trans capture))

end Nek0.Guarantees
