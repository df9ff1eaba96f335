import Nek0.Library.Run
import Nek0.Source.VoiceEffects

/-!
# Mute choices across reconnects

A reconnect opens a session of its own, which starts unmuted and without push-to-talk,
in the app and as the engine and the server know it. So it starts as the user chose last
exactly if the user chose all three off.
-/

namespace Nek0.Guarantees

open Nek0.Library Nek0.Source.Voice Nek0.Source.Voice.VoiceApp
open Nek0.Source (ConnectionId)

structure VoiceFlags where
  inputMuted : Bool
  outputMuted : Bool
  pttMode : Bool
  deriving DecidableEq, Repr

def VoiceFlags.off : VoiceFlags := ⟨false, false, false⟩

def flagsOf (st : TsConnectionState) : VoiceFlags := ⟨st.inputMuted, st.outputMuted, st.pttMode⟩

/-- What the server was told about a session. -/
def mutesTold (c : TsConnection) : Bool × Bool := (c.inputMuted, c.outputMuted)

/-- The app with the user's last choice for each session, which the session that replaces
it takes on, what the engine was told last about push-to-talk, and which sessions replace
another one and have had no flag changed since. -/
structure Chosen where
  app : VoiceApp
  choice : ConnectionId → VoiceFlags
  pttTold : ConnectionId → Bool
  replacing : ConnectionId → Bool

/-- An action, or the engine call of the `connect` that a reconnect timer makes for a lost
session. -/
inductive Move where
  | act (action : Action)
  | reconnect (lost : ConnectionId) (savedMicGain : Option ℚ)

/-- The action can change a flag of the session, or opens it. -/
def touches (s : VoiceApp) (cid : ConnectionId) : Action → Bool
  | .toggleInputMute other => other = cid
  | .setFullMute other _ => other = cid
  | .toggleOutputMute other => other = cid
  | .togglePttMode other => other = cid
  | .setFullMuteAll _ => cid ∈ s.order && (s.stateOf cid).connected
  | .onAudioFocusLost => s.selectedId = some cid
  | .onAudioFocusRegained => s.selectedId = some cid
  | .notificationMute _ => s.selectedId = some cid
  | .resumeMuted => (s.sessions.find cid).isSome
  | .openSession _ => s.engine.nextConnectionId = cid
  | _ => false

namespace Chosen

def start : Chosen := ⟨.build, fun _ => .off, fun _ => false, fun _ => false⟩

/-- The user's choices. The audio focus is none of them. -/
def choose (k : Chosen) : Action → ConnectionId → VoiceFlags
  | .toggleInputMute cid =>
    Function.update k.choice cid
      { k.choice cid with inputMuted := !(k.app.stateOf cid).inputMuted }
  | .setFullMute cid muted =>
    Function.update k.choice cid { k.choice cid with inputMuted := muted, outputMuted := muted }
  | .setFullMuteAll muted => fun cid =>
    if cid ∈ k.app.order && (k.app.stateOf cid).connected then
      { k.choice cid with inputMuted := muted, outputMuted := muted }
    else k.choice cid
  | .toggleOutputMute cid =>
    Function.update k.choice cid
      { k.choice cid with outputMuted := !(k.app.stateOf cid).outputMuted }
  | .togglePttMode cid =>
    Function.update k.choice cid { k.choice cid with pttMode := !(k.app.stateOf cid).pttMode }
  | .notificationMute muted => fun cid =>
    if k.app.selectedId = some cid then { k.choice cid with inputMuted := muted }
    else k.choice cid
  | .openSession _ => Function.update k.choice k.app.engine.nextConnectionId .off
  | _ => k.choice

def tellPtt (k : Chosen) : Action → ConnectionId → Bool
  | .togglePttMode cid => Function.update k.pttTold cid !(k.app.stateOf cid).pttMode
  | .openSession _ => Function.update k.pttTold k.app.engine.nextConnectionId false
  | _ => k.pttTold

/-- The engine gives a reconnect an id under which the app has no session. -/
def step (k : Chosen) : Move → Option Chosen
  | .act action => (k.app.step action).map fun app =>
      ⟨app, k.choose action, k.tellPtt action,
        fun cid => k.replacing cid && !touches k.app cid action⟩
  | .reconnect lost savedMicGain =>
    let cid := k.app.engine.nextConnectionId
    if (k.app.sessions.find cid).isSome then none
    else
      some ⟨k.app.openSession savedMicGain, Function.update k.choice cid (k.choice lost),
        Function.update k.pttTold cid false, Function.update k.replacing cid true⟩

end Chosen

/-- The session is as the user chose, in the app and as server and engine were told. -/
def AsChosen (k : Chosen) (cid : ConnectionId) : Prop :=
  flagsOf (k.app.stateOf cid) = k.choice cid ∧
    ∀ c, k.app.engine.sessions cid = some c →
      (⟨c.inputMuted, c.outputMuted, k.pttTold cid⟩ : VoiceFlags) = k.choice cid

/-- No flag of the session is set, and the server was told of none. -/
structure Plain (cid : ConnectionId) (s : VoiceApp) : Prop where
  flags : flagsOf (s.stateOf cid) = .off
  told : ∀ c, s.engine.sessions cid = some c → mutesTold c = (false, false)

section Plain

variable {cid other : ConnectionId} {s t : VoiceApp}

theorem plain_of (plain : Plain cid s) (flags : flagsOf (t.stateOf cid) = .off)
    (engine : EngineKeeps mutesTold s t) : Plain cid t := by
  refine ⟨flags, fun c found => ?_⟩
  have same := engine cid
  rw [found, Option.map_some] at same
  obtain ⟨d, before, told⟩ := Option.map_eq_some_iff.mp same.symm
  exact told.symm.trans (plain.told d before)

theorem plain_keeps (plain : Plain cid s) (keeps : Keeps flagsOf s t)
    (engine : EngineKeeps mutesTold s t) : Plain cid t :=
  plain_of plain ((keeps cid).trans plain.flags) engine

theorem plain_settings (plain : Plain cid s) (keeps : Keeps flagsOf s t)
    (engine : EngineKeeps wiring s t) : Plain cid t :=
  plain_keeps plain keeps (engineKeeps_of_wiring engine fun w => (w.2.2.2.1, w.2.2.2.2))

theorem blind_mutesTold : EncoderBlind mutesTold := ⟨fun _ _ => rfl⟩

theorem plain_updateMicState (plain : Plain cid s) : Plain cid s.updateMicState :=
  plain_keeps plain keeps_updateMicState (engineKeeps_updateMicState blind_mutesTold)

/-- An engine call and a write for another session. -/
theorem plain_other {next : TsConnectionState} {engine : VoiceEngine}
    {change : TsConnection → TsConnection} (plain : Plain cid s) (different : cid ≠ other)
    (set : engine = s.engine.modify other change) :
    Plain cid (({ s with engine := engine }).setSession other next) := by
  subst set
  refine ⟨?_, fun c found => plain.told c ?_⟩
  · rw [stateOf_setSession_of_ne _ _ _ _ different]
    exact plain.flags
  · simpa [VoiceEngine.modify, different] using found

theorem plain_modifyRt {change : SessionRuntime → SessionRuntime} (plain : Plain cid s) :
    Plain cid (s.modifyRt other change) :=
  ⟨plain.flags, plain.told⟩

theorem plain_toggleInputMute (plain : Plain cid s) (different : cid ≠ other) :
    Plain cid (s.toggleInputMute other) := by
  refine plain_updateMicState ?_
  split
  · exact plain_other plain different rfl
  · exact plain_other (plain_modifyRt plain) different rfl

theorem plain_setFullMute {muted : Bool} (plain : Plain cid s) (different : cid ≠ other) :
    Plain cid (s.setFullMute other muted) := by
  simp only [setFullMute]
  split
  · exact plain
  · refine plain_updateMicState ?_
    exact plain_other plain different rfl

theorem plain_togglePttMode (plain : Plain cid s) (different : cid ≠ other) :
    Plain cid (s.togglePttMode other) := by
  refine plain_updateMicState ?_
  split
  · exact plain_other plain different rfl
  · exact plain_other (s := s) plain different (VoiceEngine.modify_modify ..)

/-- Only connected sessions are muted. -/
theorem plain_setFullMuteAll {muted : Bool} (plain : Plain cid s)
    (passed : cid ∈ s.order → (s.stateOf cid).connected = false) :
    Plain cid (s.setFullMuteAll muted) := by
  simp only [setFullMuteAll]
  generalize s.order = cids at passed
  induction cids generalizing s with
  | nil => exact plain
  | cons other cids ih =>
    rw [List.foldl_cons]
    split
    · rename_i connected
      have different : cid ≠ other := by
        rintro rfl
        simp [passed List.mem_cons_self] at connected
      have same : Keeps TsConnectionState.connected s (s.setFullMute other muted) :=
        keeps_setFullMute fun _ => rfl
      refine ih (plain_setFullMute plain different) fun listed => ?_
      exact (same cid).trans (passed (List.mem_cons_of_mem _ listed))
    · exact ih plain fun listed => passed (List.mem_cons_of_mem _ listed)

theorem plain_onAudioFocusLost (plain : Plain cid s) (other : s.selectedId ≠ some cid) :
    Plain cid s.onAudioFocusLost := by
  simp only [onAudioFocusLost]
  split
  · exact plain
  · rename_i selected picked
    rw [picked] at other
    split
    · exact plain_toggleInputMute (plain_modifyRt plain) fun same => other (congrArg some same.symm)
    · exact plain

theorem plain_onAudioFocusRegained (plain : Plain cid s) (other : s.selectedId ≠ some cid) :
    Plain cid s.onAudioFocusRegained := by
  simp only [onAudioFocusRegained]
  split
  · exact plain
  · rename_i selected picked
    rw [picked] at other
    repeat' split
    · exact plain_modifyRt plain
    · exact plain_toggleInputMute (plain_modifyRt plain) fun same => other (congrArg some same.symm)
    · exact plain

theorem plain_notificationMute {muted : Bool} (plain : Plain cid s)
    (other : s.selectedId ≠ some cid) : Plain cid (s.notificationMute muted) := by
  simp only [notificationMute]
  split
  · exact plain
  · rename_i selected picked
    rw [picked] at other
    split
    · exact plain
    · exact plain_toggleInputMute plain fun same => other (congrArg some same.symm)

theorem plain_resumeMuted (plain : Plain cid s) (absent : (s.sessions.find cid).isSome = false) :
    Plain cid s.resumeMuted := by
  have unlisted : cid ∉ s.sessions.keys := by
    rw [s.sessions.mem_keys, absent]
    exact Bool.false_ne_true
  have unwritten : s.resumeMuted.stateOf cid = s.stateOf cid :=
    (stateOf_writeAll (fun st => { st.copy with inputMuted := true }) s.sessions.keys
      s.sessions.nodup).trans (if_neg unlisted)
  exact plain_of plain ((congrArg flagsOf unwritten).trans plain.flags) engineKeeps_resumeMuted

theorem plain_cancelConnect (plain : Plain cid s) : Plain cid (s.cancelConnect other) := by
  refine plain_of plain ?_ .refl
  by_cases here : cid = other
  · simp [stateOf, cancelConnect, here, flagsOf, TsConnectionState.new, VoiceFlags.off]
  · simpa [stateOf, cancelConnect, here] using plain.flags

theorem plain_openSession {savedMicGain : Option ℚ} (plain : Plain cid s)
    (other : s.engine.nextConnectionId ≠ cid) : Plain cid (s.openSession savedMicGain) := by
  have state : Keeps flagsOf s (s.openSession savedMicGain) :=
    keeps_openSession (fun _ _ => rfl) fun _ => rfl
  refine ⟨(state cid).trans plain.flags, fun c found => plain.told c ?_⟩
  cases savedMicGain <;>
    simpa [openSession, VoiceEngine.connect, VoiceApp.setMicGain, VoiceEngine.setMicGain,
      VoiceEngine.modify, Ne.symm other] using found

/-- The session that a reconnect opens. -/
theorem plain_opened {savedMicGain : Option ℚ}
    (fresh : s.sessions.find s.engine.nextConnectionId = none) :
    Plain s.engine.nextConnectionId (s.openSession savedMicGain) := by
  have state : Keeps flagsOf s (s.openSession savedMicGain) :=
    keeps_openSession (fun _ _ => rfl) fun _ => rfl
  refine ⟨(state _).trans ?_, fun c found => ?_⟩
  · simp [stateOf, fresh, flagsOf, TsConnectionState.new, VoiceFlags.off]
  · cases savedMicGain <;>
      simp [openSession, VoiceEngine.connect, VoiceApp.setMicGain, VoiceEngine.setMicGain,
        VoiceEngine.modify] at found <;>
      rw [← found] <;> rfl

theorem plain_handleDisconnected {expected : Bool} {reason : String} {retried : Bool}
    (plain : Plain cid s) : Plain cid (s.handleDisconnected other expected reason retried) := by
  refine plain_of plain ?_ (engineKeeps_handleDisconnected blind_mutesTold)
  have stopped (queried : ConnectionId) :
      s.stopAudioService.stateOf queried = s.stateOf queried := by
    simp only [stateOf, stopAudioService_sessions]
  simp only [handleDisconnected]
  repeat' split
  · exact plain.flags
  · rw [stateOf_setSession]
    split
    · rfl
    · rw [stopped]
      exact plain.flags
  · rw [stopped]
    exact plain.flags

theorem plain_handleConnected {data : ConnectedEvent} (plain : Plain cid s) :
    Plain cid (s.handleConnected other data) := by
  have written : Keeps flagsOf s (s.setSession other (connectedState (s.stateOf other) data)) :=
    keeps_setSession rfl
  have handled : Keeps flagsOf (s.setSession other (connectedState (s.stateOf other) data))
      (s.handleConnected other data) :=
    keeps_handleConnected (fun _ _ => rfl) fun _ => rfl
  exact plain_keeps plain (written.trans handled) (engineKeeps_handleConnected blind_mutesTold)

theorem plain_handleEvent {event : TsEngineEvent} (plain : Plain cid s) :
    Plain cid (s.handleEvent other event) := by
  simp only [handleEvent]
  split
  · exact plain
  · cases event with
    | connected => exact plain_handleConnected plain
    | disconnected => exact plain_handleDisconnected plain
    | connectFailed | error | clientJoined | clientLeft =>
      exact plain_keeps plain (keeps_setSession rfl) .refl
    | channelsUpdated =>
      dsimp only
      split
      · exact plain_keeps plain (keeps_setSession rfl) .refl
      · exact plain
    | other notice =>
      cases notice with
      | none => exact plain
      | some notice => exact plain_keeps plain (keeps_setSession rfl) .refl

theorem plain_engine {engine : VoiceEngine} (plain : Plain cid s)
    (told : ∀ c, engine.sessions cid = some c → mutesTold c = (false, false)) :
    Plain cid { s with engine := engine } :=
  ⟨plain.flags, told⟩

/-- Nothing but a call that touches its flags changes them. -/
theorem plain_step {action : Action} (plain : Plain cid s)
    (untouched : touches s cid action = false) (taken : s.step action = some t) :
    Plain cid t := by
  cases action with
  | toggleInputMute other =>
    cases taken
    exact plain_toggleInputMute plain (by simpa [touches, eq_comm] using untouched)
  | setFullMute other muted =>
    cases taken
    exact plain_setFullMute plain (by simpa [touches, eq_comm] using untouched)
  | toggleOutputMute other =>
    cases taken
    exact plain_other plain (by simpa [touches, eq_comm] using untouched) rfl
  | togglePttMode other =>
    cases taken
    exact plain_togglePttMode plain (by simpa [touches, eq_comm] using untouched)
  | setFullMuteAll muted =>
    cases taken
    exact plain_setFullMuteAll plain (by simpa [touches] using untouched)
  | onAudioFocusLost =>
    cases taken
    exact plain_onAudioFocusLost plain (by simpa [touches] using untouched)
  | onAudioFocusRegained =>
    cases taken
    exact plain_onAudioFocusRegained plain (by simpa [touches] using untouched)
  | notificationMute muted =>
    cases taken
    exact plain_notificationMute plain (by simpa [touches] using untouched)
  | resumeMuted => cases taken; exact plain_resumeMuted plain untouched
  | openSession savedMicGain =>
    cases taken
    exact plain_openSession plain (by simpa [touches] using untouched)
  | cancelConnect => cases taken; exact plain_cancelConnect plain
  | event => cases taken; exact plain_handleEvent plain
  | setPttPressed =>
    cases taken
    exact plain_keeps plain (keeps_setPttPressed fun _ => rfl)
      (engineKeeps_setPttPressed blind_mutesTold)
  | disconnect =>
    cases taken
    exact plain_keeps plain (keeps_disconnect (fun _ => rfl) fun _ => rfl)
      (engineKeeps_disconnect blind_mutesTold)
  | loadAudioPreferences =>
    cases taken
    exact plain_keeps plain (keeps_loadAudioPreferences fun _ => rfl)
      engineKeeps_loadAudioPreferences
  | loadHistoryPreferences =>
    cases taken
    exact plain_keeps plain (keeps_loadHistoryPreferences fun _ => rfl)
      engineKeeps_loadHistoryPreferences
  | selectSession other =>
    cases taken
    refine plain_keeps plain keeps_selectSession (engineKeeps_of_engine ?_)
    rw [selectSession]
    split <;> rfl
  | retry => cases taken; exact plain_keeps plain (keeps_retry fun _ => rfl) .refl
  | setVadThreshold =>
    cases taken
    exact plain_settings plain (keeps_setVadThreshold fun _ => rfl) wiring_setVadThreshold
  | setVadEnabled =>
    cases taken
    exact plain_settings plain (keeps_setVadEnabled fun _ => rfl) wiring_setVadEnabled
  | setMicGain =>
    cases taken
    exact plain_settings plain (keeps_setMicGain fun _ => rfl) wiring_setMicGain
  | applyWhisperPreferences =>
    cases taken
    exact plain_settings plain (keeps_applyWhisperPreferences fun _ => rfl)
      wiring_applyWhisperPreferences
  | setWhisperTargets =>
    cases taken
    exact plain_settings plain (keeps_setWhisperTargets fun _ _ _ _ => rfl)
      wiring_setWhisperTargetsCall
  | setWhisperActive =>
    cases taken
    exact plain_settings plain (keeps_setWhisperActive (fun _ _ => rfl) fun _ _ => rfl)
      wiring_setWhisperActive
  | setWhisperAllowlistEnabled =>
    cases taken
    exact plain_settings plain (keeps_setWhisperAllowlistEnabled fun _ => rfl)
      wiring_setWhisperAllowlistEnabled
  | toggleWhisperAllowedUid =>
    cases taken
    exact plain_settings plain (keeps_toggleWhisperAllowedUid fun _ _ => rfl)
      wiring_toggleWhisperAllowedUid
  | reconcileRoster =>
    cases taken
    exact plain_settings plain (keeps_reconcileRoster (fun _ _ _ => rfl) fun _ _ _ _ => rfl)
      wiring_reconcileRoster
  | permissionAnswered =>
    exact plain_keeps plain (keeps_permissionAnswered taken) (engineKeeps_permissionAnswered taken)
  | orphanAnswered =>
    exact plain_keeps plain (keeps_orphanAnswered taken) (engineKeeps_orphanAnswered taken)
  | handleMicData =>
    cases taken
    exact plain_keeps plain keeps_handleMicData engineKeeps_handleMicData
  | engineConnected other ownClientId =>
    cases taken
    exact plain_keeps plain .refl (engineKeeps_modify (by intro _; rfl) rfl)
  | engineRemoved other =>
    cases taken
    refine plain_engine plain fun c found => plain.told c ?_
    simp only [VoiceEngine.remove] at found
    by_cases here : cid = other
    · simp [here] at found
    · simpa [here] using found

end Plain

/-- Every session that replaces another one and was not touched since is plain. -/
def Replacements (k : Chosen) : Prop :=
  ∀ cid, k.replacing cid = true → Plain cid k.app ∧ k.pttTold cid = false

theorem replacements_act {k : Chosen} {t : VoiceApp} {action : Action}
    (replacements : Replacements k) (taken : k.app.step action = some t) :
    Replacements ⟨t, k.choose action, k.tellPtt action,
      fun cid => k.replacing cid && !touches k.app cid action⟩ := by
  intro cid replacing
  simp only [Bool.and_eq_true, Bool.not_eq_true'] at replacing
  obtain ⟨replacing, untouched⟩ := replacing
  obtain ⟨plain, silent⟩ := replacements cid replacing
  refine ⟨plain_step plain untouched taken, ?_⟩
  cases action with
  | togglePttMode other =>
    have different : cid ≠ other := by simpa [touches, eq_comm] using untouched
    simpa [Chosen.tellPtt, different] using silent
  | openSession =>
    have different : k.app.engine.nextConnectionId ≠ cid := by simpa [touches] using untouched
    simpa [Chosen.tellPtt, Ne.symm different] using silent
  | _ => exact silent

theorem replacements_step {k after : Chosen} {move : Move} (replacements : Replacements k)
    (taken : k.step move = some after) : Replacements after := by
  cases move with
  | act action =>
    simp only [Chosen.step, Option.map_eq_some_iff] at taken
    obtain ⟨t, taken, rfl⟩ := taken
    exact replacements_act replacements taken
  | reconnect lost savedMicGain =>
    simp only [Chosen.step, Option.ite_none_left_eq_some, Bool.not_eq_true,
      Option.isSome_eq_false_iff, Option.isNone_iff_eq_none, Option.some.injEq] at taken
    obtain ⟨fresh, rfl⟩ := taken
    intro cid replacing
    simp only [Function.update_apply] at replacing ⊢
    by_cases here : cid = k.app.engine.nextConnectionId
    · subst here
      exact ⟨plain_opened fresh, if_pos rfl⟩
    · rw [if_neg here] at replacing ⊢
      obtain ⟨plain, silent⟩ := replacements cid replacing
      exact ⟨plain_openSession plain (Ne.symm here), silent⟩

/-- In every run, a session that replaces a lost one is as the user chose last, until the
next change of a flag, exactly if the user chose everything off. -/
theorem chosen_survives_iff_off (moves : List Move) (k : Chosen)
    (run : Run Chosen.step anyStep .start moves k) (cid : ConnectionId)
    (replacing : k.replacing cid = true) : AsChosen k cid ↔ k.choice cid = .off := by
  have initial : Replacements .start := fun _ replacing => by cases replacing
  have replacements := run.invariant Replacements initial fun _ _ _ before _ taken =>
    replacements_step before taken
  obtain ⟨plain, silent⟩ := replacements cid replacing
  constructor
  · intro asChosen
    exact asChosen.1.symm.trans plain.flags
  · intro off
    refine ⟨plain.flags.trans off.symm, fun c found => ?_⟩
    have told := plain.told c found
    simp only [mutesTold, Prod.mk.injEq] at told
    rw [off, silent, told.1, told.2]
    rfl

/-- The user mutes and unmutes the session, which is then lost and opened anew. -/
def unmutedHistory : List Move :=
  [.act (.openSession none), .act (.engineConnected 1 5),
    .act (.event 1 (.connected ⟨some 5, "", 0, [], []⟩)), .act (.setFullMute 1 true),
    .act (.setFullMute 1 false), .act (.event 1 (.disconnected false "timeout" true)),
    .reconnect 1 none, .act (.engineConnected 2 6),
    .act (.event 2 (.connected ⟨some 6, "", 0, [], []⟩))]

theorem unmuted_survives : ∃ k : Chosen, k.replacing 2 = true ∧ AsChosen k 2 := by
  obtain ⟨k, run, reached⟩ := reaches_of_exec anyStep (fun _ _ _ => trivial) (show
    (exec Chosen.step .start unmutedHistory).any (fun k =>
      k.replacing 2 && k.choice 2 == .off) = true by
    decide +kernel)
  simp only [Bool.and_eq_true, beq_iff_eq] at reached
  exact ⟨k, reached.1, (chosen_survives_iff_off unmutedHistory k run 2 reached.1).mpr reached.2⟩

/-- The user mutes the session, which is then lost and opened anew; the push-to-talk key
is released once. -/
def mutedHistory : List Move :=
  [.act (.openSession none), .act (.engineConnected 1 5),
    .act (.event 1 (.connected ⟨some 5, "", 0, [], []⟩)), .act (.toggleInputMute 1),
    .act (.event 1 (.disconnected false "timeout" true)), .reconnect 1 none,
    .act (.engineConnected 2 6), .act (.event 2 (.connected ⟨some 6, "", 0, [], []⟩)),
    .act (.setPttPressed 2 false), .act (.permissionAnswered true), .act .handleMicData]

/-- The new session hears the user who is muted. -/
theorem reconnect_opens_microphone :
    ∃ k, Run Chosen.step anyStep .start mutedHistory k ∧ k.replacing 2 = true ∧
      k.choice 2 = ⟨true, false, false⟩ ∧ k.app.sent = [⟨2, false⟩] ∧ ¬ AsChosen k 2 := by
  obtain ⟨k, run, reached⟩ := reaches_of_exec anyStep (fun _ _ _ => trivial) (show
    (exec Chosen.step .start mutedHistory).any (fun k =>
      k.replacing 2 && k.choice 2 == ⟨true, false, false⟩ && k.app.sent == [⟨2, false⟩] &&
        flagsOf (k.app.stateOf 2) == .off) = true by
    decide +kernel)
  simp only [Bool.and_eq_true, beq_iff_eq] at reached
  obtain ⟨⟨⟨replacing, choice⟩, sent⟩, flags⟩ := reached
  refine ⟨k, run, replacing, choice, sent, fun asChosen => ?_⟩
  have same := asChosen.1
  rw [flags, choice] at same
  cases same

end Nek0.Guarantees
