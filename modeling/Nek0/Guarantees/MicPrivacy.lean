import Nek0.Library.Run
import Nek0.Source.MicUpdates

/-!
# Privacy of the microphone

The microphone is on exactly while the selected session is connected and wants it, and
no frame goes to a muted session, in the runs in which nothing but an update changes what
the selected session wants and every update can make good what it finds.
-/

namespace Nek0.Guarantees

open Nek0.Library Nek0.Source.Voice Nek0.Source.Voice.VoiceApp
open Nek0.Source (ConnectionId)

/-- The session of the microphone is connected and wants it. -/
def wanted (s : VoiceApp) : Bool :=
  s.shouldMicBeActive && (s.stateOf s.micConnectionId).connected

/-- The same with another state of that session. -/
def wantedWith (s : VoiceApp) (st : TsConnectionState) : Bool :=
  s.micConnectionId ≠ 0 && st.wantsMic && st.connected

def micMuted (s : VoiceApp) : Bool := (s.stateOf s.micConnectionId).inputMuted

/-- The microphone is on, or waits for the permission, for the service or for one that
has been dropped. -/
def captureOn (s : VoiceApp) : Bool :=
  s.audioService.any (·.capturing) || 0 < s.orphaned || s.stray

/-- The service points at the selected session, nothing was sent to a muted session, and
the microphone is on exactly while that session is connected and wants it. -/
structure MicPrivate (s : VoiceApp) : Prop where
  target : ∀ v, s.audioService = some v → s.selectedId = some v.connectionId
  unmuted : ∀ frame ∈ s.sent, frame.inputMuted = false
  capture : captureOn s = wanted s

/-- An update starts no service for a session that is connected and wants the microphone
already, switches on for a connected session that is not muted, and switches off while no
permission is pending. -/
def settles (s : VoiceApp) : Bool :=
  match s.audioService with
  | none => !wanted s
  | some v => (!s.shouldMicBeActive || (wanted s && !micMuted s)) &&
      (s.shouldMicBeActive || !s.micEnabled || v.enabling = 0)

/-- The session has the state `st` next, and the microphone is wanted as before. -/
def sameWish (s : VoiceApp) (cid : ConnectionId) (st : TsConnectionState) : Bool :=
  cid ≠ s.micConnectionId || wantedWith s st = wanted s

/-- The host message closes the connection. -/
def closes (data : ConnectedEvent) : Bool := data.hostMessage ≠ "" && data.hostMessageMode = 3

/-- The events of a session that the app has. -/
def eventStaysPrivate (s : VoiceApp) (cid : ConnectionId) : TsEngineEvent → Bool
  | .connected data =>
    sameWish s cid (connectedState (s.stateOf cid) data) &&
      (cid ≠ s.micConnectionId || !wanted s || !closes data)
  | .connectFailed .. => cid ≠ s.micConnectionId || !wanted s
  | .disconnected .. =>
    (s.stateOf cid).connecting || !wanted s || (cid = s.micConnectionId &&
      s.audioService.all fun v => v.running && v.enabling = 0)
  | .clientJoined id channelId =>
    sameWish s cid { (s.stateOf cid).copy with
      clients := (s.stateOf cid).clients ++ [⟨id, channelId, 0, false⟩] }
  | .clientLeft id =>
    sameWish s cid { (s.stateOf cid).copy with
      clients := (s.stateOf cid).clients.filter (·.id ≠ id) }
  | .channelsUpdated channels clients =>
    sameWish s cid { (s.stateOf cid).copy with channels := channels, clients := clients }
  | .error _ => true
  | .other _ => true

/-- Every update settles, and every other step leaves alone what the selected session
wants, and the selection while there is a service. -/
def staysPrivate (s : VoiceApp) : Action → Bool
  | .openSession _ =>
    s.audioService.isNone && !(s.stateOf s.engine.nextConnectionId).connected
  | .selectSession cid =>
    cid ∉ s.order || (match s.audioService with
      | none => !(cid ≠ 0 && (s.stateOf cid).wantsMic && (s.stateOf cid).connected)
      | some v => cid = v.connectionId)
  | .cancelConnect cid =>
    s.audioService.isNone ||
      (s.order.any (· ≠ cid) && (cid ≠ s.micConnectionId || !wanted s))
  | .disconnect cid =>
    cid ≠ s.micConnectionId || !wanted s
  | .event cid event =>
    (cid ≠ 0 && (s.rt.find cid).isNone) || eventStaysPrivate s cid event
  | .reconcileRoster cid clients =>
    clients = [] || sameWish s cid { (s.stateOf cid).copy with clients := clients }
  | .resumeMuted => !wanted s
  | .permissionAnswered granted =>
    granted || s.audioService.any fun v => v.listening || 1 < v.enabling
  | action => checksUpdates settles s action

/-- What holds beside it. -/
structure Private (s : VoiceApp) : Prop where
  registered : Registered s
  target : ∀ v, s.audioService = some v → s.selectedId = some v.connectionId
  capture : s.audioService.any (·.capturing) = wanted s
  enabled : s.micEnabled = wanted s
  orphaned : s.orphaned = 0
  stray : s.stray = false
  muted : wanted s = true → micMuted s = false
  sent : ∀ frame ∈ s.sent, frame.inputMuted = false

theorem Private.micPrivate {s : VoiceApp} (kept : Private s) : MicPrivate s where
  target := kept.target
  unmuted := kept.sent
  capture := by simp [captureOn, kept.capture, kept.orphaned, kept.stray]

section Wanted

variable {s t : VoiceApp} {cid : ConnectionId} {next : TsConnectionState}

theorem wanted_eq : wanted s = wantedWith s (s.stateOf s.micConnectionId) := rfl

theorem wanted_setSession :
    wanted (s.setSession cid next) =
      if cid = s.micConnectionId then wantedWith s next else wanted s := by
  simp only [wanted, wantedWith, shouldMicBeActive, setSession_micConnectionId,
    stateOf_setSession]
  by_cases here : cid = s.micConnectionId
  · rw [if_pos here.symm, if_pos here]
    rfl
  · rw [if_neg (Ne.symm here), if_neg here]
    rfl

theorem micMuted_setSession :
    micMuted (s.setSession cid next) =
      if cid = s.micConnectionId then next.inputMuted else micMuted s := by
  simp only [micMuted, setSession_micConnectionId, stateOf_setSession]
  by_cases here : cid = s.micConnectionId
  · rw [if_pos here.symm, if_pos here]
  · rw [if_neg (Ne.symm here), if_neg here]

/-- The fields that decide about the microphone. -/
def micView (st : TsConnectionState) : Bool × Bool × Bool :=
  (st.connected, st.wantsMic, st.inputMuted)

theorem wish_of_keeps (keeps : Keeps micView s t) (same : t.micConnectionId = s.micConnectionId) :
    wanted t = wanted s ∧ micMuted t = micMuted s := by
  have view := keeps s.micConnectionId
  simp only [micView, Prod.mk.injEq] at view
  simp only [wanted, micMuted, shouldMicBeActive, same, view, and_self]

theorem wish_of_sessions (sessions : t.sessions = s.sessions)
    (same : t.micConnectionId = s.micConnectionId) :
    wanted t = wanted s ∧ micMuted t = micMuted s :=
  wish_of_keeps (keeps_of_sessions sessions) same

end Wanted

section Private

variable {s t : VoiceApp} {cid : ConnectionId}

/-- A step that leaves the microphone and the wish alone. -/
theorem private_of (kept : Private s) (mic : SameMic s t) (registered : Registered t)
    (target : ∀ v, s.audioService = some v → t.selectedId = some v.connectionId)
    (wish : wanted t = wanted s) (muted : wanted s = true → micMuted t = false) : Private t where
  registered := registered
  target v serving := target v (mic.audioService ▸ serving)
  capture := by rw [mic.audioService, kept.capture, wish]
  enabled := by rw [mic.micEnabled, kept.enabled, wish]
  orphaned := mic.orphaned.trans kept.orphaned
  stray := mic.stray.trans kept.stray
  muted on := muted (wish ▸ on)
  sent := mic.sent ▸ kept.sent

theorem private_tabs (kept : Private s) (mic : SameMic s t) (tabs : SameTabs s t)
    (wish : wanted t = wanted s) (muted : wanted s = true → micMuted t = false) : Private t :=
  private_of kept mic (tabs.registered kept.registered)
    (fun v serving => tabs.selected.trans (kept.target v serving)) wish muted

/-- A step that shows nothing of the fields that decide. -/
theorem private_keeps (kept : Private s) (mic : SameMic s t) (tabs : SameTabs s t)
    (keeps : Keeps micView s t) : Private t := by
  obtain ⟨wish, muted⟩ := wish_of_keeps keeps tabs.micConnectionId
  exact private_tabs kept mic tabs wish fun on => muted.trans (kept.muted on)

theorem wanted_write {next : TsConnectionState} (same : sameWish s cid next = true) :
    wanted (s.setSession cid next) = wanted s := by
  simp only [sameWish, Bool.or_eq_true, decide_eq_true_eq, ne_eq] at same
  rw [wanted_setSession]
  split
  · rename_i here
    exact same.resolve_left fun other => other here
  · rfl

/-- A write of a session that changes nothing about the wish of the microphone. -/
theorem private_write {next : TsConnectionState} (kept : Private s)
    (same : sameWish s cid next = true) (muted : next.inputMuted = (s.stateOf cid).inputMuted) :
    Private (s.setSession cid next) := by
  refine private_tabs kept ⟨rfl, rfl, rfl, rfl, rfl⟩ sameTabs_setSession (wanted_write same)
    fun on => ?_
  rw [micMuted_setSession]
  split
  · rename_i here
    rw [muted, here]
    exact kept.muted on
  · exact kept.muted on

/-- The session is lost while the microphone is not wanted. -/
theorem private_offline {next : TsConnectionState} (kept : Private s) (off : wanted s = false)
    (offline : next.connected = false) : Private (s.setSession cid next) := by
  refine private_tabs kept ⟨rfl, rfl, rfl, rfl, rfl⟩ sameTabs_setSession ?_ fun on => ?_
  · rw [wanted_setSession]
    split
    · rw [wantedWith, offline, off, Bool.and_false]
    · rfl
  · simp [off] at on

/-- A write that shows nothing of the fields that decide. -/
theorem private_blind {next : TsConnectionState} (kept : Private s)
    (same : micView next = micView (s.stateOf cid)) : Private (s.setSession cid next) :=
  private_keeps kept ⟨rfl, rfl, rfl, rfl, rfl⟩ sameTabs_setSession (keeps_setSession same)

/-- The service starts without listening, while the microphone is not wanted. -/
theorem private_startAudioService (kept : Private s) (idle : s.audioService = none) :
    Private s.startAudioService := by
  have off : wanted s = false := by rw [← kept.capture, idle]; rfl
  obtain ⟨wish, -⟩ := wish_of_sessions (startAudioService_sessions s)
    sameTabs_startAudioService.micConnectionId
  have registered := sameTabs_startAudioService.registered kept.registered
  have unwanted : wanted s.startAudioService = false := wish.trans off
  revert registered unwanted
  simp only [startAudioService]
  split
  · exact fun _ _ => kept
  · rename_i target
    intro registered unwanted
    refine ⟨registered, fun v serving => ?_, ?_, ?_, kept.orphaned, kept.stray, fun on => ?_,
      kept.sent⟩
    · cases serving
      exact kept.registered.micConnectionId target
    · rw [unwanted]
      rfl
    · rw [unwanted]
      exact kept.enabled.trans off
    · rw [unwanted] at on
      cases on

/-- A service that can be dropped leaves no subscription and no question behind. -/
structure Dropped (s t : VoiceApp) : Prop where
  audioService : t.audioService = none
  micEnabled : t.micEnabled = false
  orphaned : t.orphaned = s.orphaned
  stray : t.stray = s.stray
  sent : t.sent = s.sent

theorem dropped_stopAudioService (answered : ∀ v, s.audioService = some v → v.enabling = 0)
    (ends : ∀ v, s.audioService = some v → v.running = true ∨ v.listening = false) :
    Dropped s s.stopAudioService := by
  simp only [stopAudioService]
  split
  · rename_i idle
    exact ⟨idle, rfl, rfl, rfl, rfl⟩
  · rename_i v serving
    have asked := answered v serving
    repeat' split
    · exact ⟨rfl, rfl, by simp [asked], rfl, rfl⟩
    · exact ⟨rfl, rfl, by simp [asked], rfl, rfl⟩
    · rename_i halted
      have silent := (ends v serving).resolve_left halted
      exact ⟨rfl, rfl, by simp [asked], by simp [silent], rfl⟩

theorem private_dropped (kept : Private s) (dropped : Dropped s t) (tabs : SameTabs s t)
    (off : wanted t = false) : Private t where
  registered := tabs.registered kept.registered
  target v serving := by simp [dropped.audioService] at serving
  capture := by rw [dropped.audioService, off]; rfl
  enabled := dropped.micEnabled.trans off.symm
  orphaned := dropped.orphaned.trans kept.orphaned
  stray := dropped.stray.trans kept.stray
  muted on := by simp [off] at on
  sent := dropped.sent ▸ kept.sent

/-- While the microphone is not wanted the service has nothing open. -/
theorem Private.silent (kept : Private s) (off : wanted s = false) (v : AudioService)
    (serving : s.audioService = some v) : v.enabling = 0 ∧ v.listening = false := by
  have quiet := kept.capture
  rw [serving, off] at quiet
  simpa [AudioService.capturing, and_comm] using quiet

theorem private_stopAudioService (kept : Private s) (off : wanted s = false) :
    Private s.stopAudioService := by
  have dropped : Dropped s s.stopAudioService :=
    dropped_stopAudioService (fun v serving => (kept.silent off v serving).1)
      fun v serving => .inr (kept.silent off v serving).2
  obtain ⟨wish, -⟩ := wish_of_sessions (stopAudioService_sessions s)
    sameTabs_stopAudioService.micConnectionId
  exact private_dropped kept dropped sameTabs_stopAudioService (wish.trans off)

/-- The update, from the state that writing the flag leaves. -/
theorem private_updateMicState {r : VoiceApp} (kept : Private s) (flagged : Flagged s r)
    (settled : settles r = true) : Private r.updateMicState := by
  have registered := flagged.tabs.registered kept.registered
  have capture : r.audioService.any (·.capturing) = wanted s := by
    rw [flagged.mic.audioService, kept.capture]
  have enabled : r.micEnabled = wanted s := flagged.mic.micEnabled.trans kept.enabled
  have orphaned : r.orphaned = 0 := flagged.mic.orphaned.trans kept.orphaned
  have stray : r.stray = false := flagged.mic.stray.trans kept.stray
  have sent : ∀ frame ∈ r.sent, frame.inputMuted = false := flagged.mic.sent ▸ kept.sent
  simp only [settles] at settled
  simp only [updateMicState]
  split
  · rename_i idle
    simp only [idle, Bool.not_eq_true'] at settled
    have written : Private r := by
      refine ⟨registered, fun v serving => ?_, ?_, ?_, orphaned, stray, fun on => ?_, sent⟩
      · simp [idle] at serving
      · rw [idle, settled]
        rfl
      · rw [settled, enabled, ← capture, idle]
        rfl
      · simp [settled] at on
    split
    · exact private_startAudioService written idle
    · exact written
  · rename_i v serving
    have target : r.selectedId = some r.micConnectionId := by
      have own := kept.target v (flagged.mic.audioService ▸ serving)
      rw [← flagged.tabs.selected] at own
      simp [VoiceApp.micConnectionId, own]
    simp only [serving, Bool.and_eq_true, Bool.or_eq_true, Bool.not_eq_true',
      decide_eq_true_eq] at settled
    obtain ⟨opens, shuts⟩ := settled
    have served (w : AudioService) (b : Bool) (own : w.connectionId = r.micConnectionId)
        (on : w.capturing = b) (wish : wanted r = b) (unmuted : b = true → micMuted r = false) :
        Private { r with audioService := some w, micEnabled := b } := by
      refine ⟨⟨registered.issued, registered.listed, registered.selected⟩, fun u serves => ?_,
        on.trans wish.symm, wish.symm, orphaned, stray, fun wants => ?_, sent⟩
      · cases serves
        exact target.trans (congrArg some own.symm)
      · exact unmuted (wish.symm.trans wants)
    split
    · rename_i switching
      rw [Bool.and_eq_true, Bool.not_eq_true'] at switching
      have should : r.shouldMicBeActive = true := switching.1
      obtain ⟨wish, unmuted⟩ := opens.resolve_left (by simp [should])
      exact served _ true rfl (by simp [AudioService.capturing]) wish fun _ => unmuted
    · rename_i unswitched
      split
      · rename_i switching
        rw [Bool.and_eq_true, Bool.not_eq_true'] at switching
        have shut : r.shouldMicBeActive = false := switching.1
        have on : r.micEnabled = true := switching.2
        have answered : v.enabling = 0 := shuts.resolve_left (by simp [shut, on])
        have wish : wanted r = false := by simp [wanted, shut]
        exact served _ false rfl (by simp [AudioService.capturing, answered]) wish
          fun impossible => by cases impossible
      · rename_i unshut
        have listens : v.capturing = r.micEnabled := by
          rw [enabled, ← capture, serving]
          rfl
        have same : r.shouldMicBeActive = r.micEnabled := by
          have first : ¬ (r.shouldMicBeActive && !r.micEnabled) = true := unswitched
          have second : ¬ (!r.shouldMicBeActive && r.micEnabled) = true := unshut
          revert first second
          cases r.shouldMicBeActive <;> cases r.micEnabled <;> simp
        cases should : r.shouldMicBeActive with
        | true =>
          obtain ⟨wish, unmuted⟩ := opens.resolve_left (by simp [should])
          exact served _ r.micEnabled rfl listens (wish.trans (should.symm.trans same))
            fun _ => unmuted
        | false =>
          have wish : wanted r = false := by simp [wanted, should]
          exact served _ r.micEnabled rfl listens (wish.trans (should.symm.trans same))
            fun on => by simp [← same, should] at on

theorem private_permissionAnswered {granted : Bool} (kept : Private s)
    (stays : (granted || s.audioService.any fun v => v.listening || 1 < v.enabling) = true)
    (answered : s.permissionAnswered granted = some t) : Private t := by
  have tabs : SameTabs s t := sameTabs_permissionAnswered answered
  obtain ⟨v, serving, waiting, rfl⟩ := permissionAnswered_cases answered
  have on : v.capturing = wanted s := by
    rw [← kept.capture, serving]
    rfl
  have asked : v.capturing = true := by simp [AudioService.capturing, Nat.pos_of_ne_zero waiting]
  refine ⟨tabs.registered kept.registered, fun w serves => ?_, ?_, kept.enabled, kept.orphaned,
    kept.stray, kept.muted, kept.sent⟩
  · cases serves
    exact kept.target v serving
  · refine Eq.trans ?_ (asked.symm.trans on)
    simp only [serving, Option.any_some, Bool.or_eq_true, decide_eq_true_eq] at stays
    obtain given | listening | others := stays
    · simp [AudioService.capturing, given]
    · simp [AudioService.capturing, listening]
    · have left : 0 < v.enabling - 1 := by omega
      simp [AudioService.capturing, left]

/-- Frames go to the selected session while it is not muted. -/
theorem private_handleMicData (kept : Private s) : Private s.handleMicData := by
  simp only [handleMicData]
  split
  · exact kept
  · rename_i v serving
    split
    · rename_i sends
      simp only [Bool.and_eq_true] at sends
      have wish : wanted s = true := by
        rw [← kept.capture, serving]
        simp [AudioService.capturing, sends.1.1.1]
      have own : s.micConnectionId = v.connectionId := by
        simp [VoiceApp.micConnectionId, kept.target v serving]
      have unmuted : (s.stateOf v.connectionId).inputMuted = false := own ▸ kept.muted wish
      refine ⟨⟨kept.registered.issued, kept.registered.listed, kept.registered.selected⟩,
        kept.target, kept.capture, kept.enabled, kept.orphaned, kept.stray, kept.muted,
        fun frame listed => ?_⟩
      cases List.mem_append.mp listed with
      | inl before => exact kept.sent frame before
      | inr last =>
        rw [List.mem_singleton.mp last]
        exact unmuted
    · exact kept

theorem private_openSession {savedMicGain : Option ℚ} (kept : Private s)
    (stays : staysPrivate s (.openSession savedMicGain) = true) :
    Private (s.openSession savedMicGain) := by
  simp only [staysPrivate, Bool.and_eq_true, Option.isNone_iff_eq_none,
    Bool.not_eq_true'] at stays
  obtain ⟨idle, offline⟩ := stays
  have off : wanted s = false := by rw [← kept.capture, idle]; rfl
  have live : Keeps TsConnectionState.connected s (s.openSession savedMicGain) :=
    keeps_openSession (fun _ _ => rfl) fun _ => rfl
  have mic : (s.openSession savedMicGain).micConnectionId = s.engine.nextConnectionId := rfl
  have unconnected :
      ((s.openSession savedMicGain).stateOf s.engine.nextConnectionId).connected = false :=
    (live _).trans offline
  have wish : wanted (s.openSession savedMicGain) = false := by
    rw [wanted, mic, unconnected, Bool.and_false]
  have taken : s.step (.openSession savedMicGain) = some (s.openSession savedMicGain) := rfl
  refine private_of kept (sameMic_step rfl taken) (registered_openSession kept.registered)
    (fun v serving => ?_) (wish.trans off.symm) fun on => ?_
  · simp [idle] at serving
  · simp [off] at on

theorem private_selectSession (kept : Private s)
    (stays : staysPrivate s (.selectSession cid) = true) : Private (s.selectSession cid) := by
  have registered : Registered (s.selectSession cid) := registered_selectSession kept.registered
  revert registered
  simp only [selectSession]
  split
  · rename_i listed
    intro registered
    simp only [staysPrivate, listed, not_true, decide_false, Bool.false_or] at stays
    split at stays
    · rename_i idle
      have off : wanted s = false := by rw [← kept.capture, idle]; rfl
      refine private_of kept ⟨rfl, rfl, rfl, rfl, rfl⟩ registered (fun v serving => ?_) ?_
        fun on => ?_
      · simp [idle] at serving
      · have wish : wanted { s with selectedId := some cid } =
            (decide (cid ≠ 0) && (s.stateOf cid).wantsMic && (s.stateOf cid).connected) := rfl
        rw [off, wish]
        exact Bool.not_eq_true' _ |>.mp stays
      · simp [off] at on
    · rename_i v serving
      have same : s.selectedId = some cid := by
        rw [kept.target v serving, of_decide_eq_true stays]
      rw [← same]
      exact kept
  · exact fun _ => kept

theorem wanted_cancelConnect {selected : ConnectionId} (before : s.selectedId = some selected)
    (after : (s.cancelConnect cid).selectedId = some selected) :
    wanted (s.cancelConnect cid) = (decide (cid ≠ selected) && wanted s) := by
  have mic : s.micConnectionId = selected := by simp [VoiceApp.micConnectionId, before]
  have same : (s.cancelConnect cid).micConnectionId = selected := by
    simp [VoiceApp.micConnectionId, after]
  rw [wanted_eq, wanted_eq, wantedWith, wantedWith, same, mic]
  by_cases here : cid = selected
  · have gone : (s.cancelConnect cid).stateOf selected = .new := by
      simp [stateOf, cancelConnect, here]
    rw [gone]
    simp [here, TsConnectionState.new]
  · have kept : (s.cancelConnect cid).stateOf selected = s.stateOf selected := by
      simp [stateOf, cancelConnect, Ne.symm here]
    simp [kept, here]

theorem wanted_unselected (registered : Registered s) (unselected : s.selectedId = none) :
    wanted s = false := by
  have none_ : s.micConnectionId = 0 := by
    simp [VoiceApp.micConnectionId, unselected, registered.selected unselected]
  simp [wanted, shouldMicBeActive, none_]

/-- The given up session is neither the one of the microphone nor the last one. -/
theorem private_cancelConnect (kept : Private s)
    (stays : staysPrivate s (.cancelConnect cid) = true) : Private (s.cancelConnect cid) := by
  have registered : Registered (s.cancelConnect cid) := registered_cancelConnect kept.registered
  simp only [staysPrivate, Bool.or_eq_true, Bool.and_eq_true, Option.isNone_iff_eq_none,
    Bool.not_eq_true', decide_eq_true_eq] at stays
  have mic : SameMic s (s.cancelConnect cid) := ⟨rfl, rfl, rfl, rfl, rfl⟩
  cases stays with
  | inl idle =>
    have off : wanted s = false := by rw [← kept.capture, idle]; rfl
    have wish : wanted (s.cancelConnect cid) = false := by
      cases after : (s.cancelConnect cid).selectedId with
      | none => exact wanted_unselected registered after
      | some selected =>
        have before : s.selectedId = some selected := by
          simp only [cancelConnect] at after
          split at after
          · cases after
          · exact after
        rw [wanted_cancelConnect before after, off, Bool.and_false]
    refine private_of kept mic registered (fun v serving => ?_) (wish.trans off.symm) fun on => ?_
    · simp [idle] at serving
    · simp [off] at on
  | inr others =>
    obtain ⟨listed, spared⟩ := others
    have left : s.order.filter (· ≠ cid) ≠ [] := by
      intro empty
      rw [List.filter_eq_nil_iff] at empty
      obtain ⟨other, member, different⟩ := List.any_eq_true.mp listed
      exact empty other member different
    have same : (s.cancelConnect cid).selectedId = s.selectedId := by
      simp only [cancelConnect, if_neg left]
    cases picked : s.selectedId with
    | none =>
      have off := wanted_unselected kept.registered picked
      refine private_of kept mic registered (fun v serving => ?_) ?_ fun on => ?_
      · exact absurd (kept.target v serving) (by simp [picked])
      · rw [off, wanted_unselected registered (same.trans picked)]
      · simp [off] at on
    | some selected =>
      have target : s.micConnectionId = selected := by simp [VoiceApp.micConnectionId, picked]
      have wish : wanted (s.cancelConnect cid) = wanted s := by
        rw [wanted_cancelConnect picked (same.trans picked)]
        cases spared with
        | inl other => simp [target ▸ other]
        | inr off => rw [off, Bool.and_false]
      refine private_of kept mic registered
        (fun v serving => same.trans (kept.target v serving)) wish fun on => ?_
      have other : selected ≠ cid := by
        rintro rfl
        rw [← wish, wanted_cancelConnect picked (same.trans picked)] at on
        simp at on
      have unmuted := kept.muted on
      have mic' : (s.cancelConnect cid).micConnectionId = selected := by
        simp [VoiceApp.micConnectionId, same, picked]
      simp only [micMuted, target, mic'] at unmuted ⊢
      simpa [stateOf, cancelConnect, other] using unmuted

theorem private_disconnect (kept : Private s)
    (stays : (cid ≠ s.micConnectionId || !wanted s) = true) : Private (s.disconnect cid) := by
  have copied : Private (s.setSession cid (s.stateOf cid).copy) := private_blind kept rfl
  have blind : Keeps micView s (s.setSession cid (s.stateOf cid).copy) := keeps_setSession rfl
  obtain ⟨wish, -⟩ := wish_of_keeps blind rfl
  simp only [disconnect]
  repeat' split
  · exact copied
  · rename_i here
    have mic : s.micConnectionId = cid := here
    have off : wanted s = false := by simpa [mic] using stays
    exact private_blind (private_stopAudioService copied (wish.trans off)) rfl
  · exact private_blind copied rfl

theorem wanted_blind {next : TsConnectionState} (same : micView next = micView (s.stateOf cid)) :
    wanted (s.setSession cid next) = wanted s :=
  (wish_of_keeps (keeps_setSession same) rfl).1

/-- A closing host message comes while the microphone of the session is not wanted. -/
theorem private_hydrateServerMessages {data : ConnectedEvent} (kept : Private s)
    (stays : (cid ≠ s.micConnectionId || !wanted s || !closes data) = true) :
    Private (s.hydrateServerMessages cid data) := by
  simp only [hydrateServerMessages]
  split
  · rename_i shown
    split
    · rename_i closing
      have ends : closes data = true := by simp [closes, shown.1, closing]
      rw [ends, Bool.not_true, Bool.or_false] at stays
      refine private_disconnect (private_blind kept rfl) ?_
      rw [setSession_micConnectionId, wanted_blind]
      · exact stays
      · rfl
    · exact private_blind kept rfl
  · exact kept

theorem private_handleConnected {data : ConnectedEvent} (kept : Private s)
    (same : sameWish s cid (connectedState (s.stateOf cid) data) = true)
    (stays : (cid ≠ s.micConnectionId || !wanted s || !closes data) = true) :
    Private (s.handleConnected cid data) := by
  have written : Private (s.setSession cid (connectedState (s.stateOf cid) data)) :=
    private_write kept same rfl
  have hydrated : Private
      ((s.setSession cid (connectedState (s.stateOf cid) data)).hydrateServerMessages cid data) := by
    refine private_hydrateServerMessages written ?_
    rw [setSession_micConnectionId, wanted_write same]
    exact stays
  simp only [handleConnected]
  split
  · rename_i idle
    exact private_startAudioService hydrated (Option.isNone_iff_eq_none.mp idle)
  · exact hydrated

/-- The service is dropped with the session that it serves. -/
theorem private_handleDisconnected {expected : Bool} {reason : String} {retried : Bool}
    (kept : Private s) (known : cid ≠ 0 → (s.rt.find cid).isSome = true)
    (stays : eventStaysPrivate s cid (.disconnected expected reason retried) = true) :
    Private (s.handleDisconnected cid expected reason retried) := by
  simp only [eventStaysPrivate, Bool.or_eq_true, Bool.and_eq_true, Bool.not_eq_true',
    decide_eq_true_eq] at stays
  simp only [handleDisconnected]
  split
  · exact kept
  · rename_i settled
    cases wish : wanted s with
    | false =>
      have stopped := private_stopAudioService kept wish
      obtain ⟨same, -⟩ := wish_of_sessions (stopAudioService_sessions s)
        sameTabs_stopAudioService.micConnectionId
      split
      · exact private_offline stopped (same.trans wish) rfl
      · exact stopped
    | true =>
      obtain ⟨here, clean⟩ := stays.resolve_left (by simp [settled, wish])
      simp only [Option.all_eq_true, Bool.and_eq_true, decide_eq_true_eq] at clean
      have target : cid ≠ 0 := by
        rintro rfl
        simp [wanted, shouldMicBeActive, ← here] at wish
      rw [stopAudioService_rt, if_pos (known target)]
      have dropped : Dropped s s.stopAudioService :=
        dropped_stopAudioService (fun v serving => (clean v serving).2)
          fun v serving => .inl (clean v serving).1
      refine private_dropped kept ⟨dropped.audioService, dropped.micEnabled, dropped.orphaned,
        dropped.stray, dropped.sent⟩ (sameTabs_stopAudioService.trans sameTabs_setSession) ?_
      rw [wanted_setSession, sameTabs_stopAudioService.micConnectionId, if_pos here]
      simp [wantedWith, disconnectedState, TsConnectionState.new]

theorem private_handleEvent {event : TsEngineEvent} (kept : Private s)
    (stays : staysPrivate s (.event cid event) = true) : Private (s.handleEvent cid event) := by
  simp only [handleEvent]
  split
  · exact kept
  · rename_i handled
    have known : cid ≠ 0 → (s.rt.find cid).isSome = true := by
      intro target
      rw [Option.isSome_iff_ne_none]
      exact fun unknown => handled ⟨target, unknown⟩
    have stays : eventStaysPrivate s cid event = true := by
      simp only [staysPrivate, Bool.or_eq_true, Bool.and_eq_true, decide_eq_true_eq,
        Option.isNone_iff_eq_none] at stays
      exact stays.resolve_left handled
    cases event with
    | connected data =>
      simp only [eventStaysPrivate, Bool.and_eq_true] at stays
      exact private_handleConnected kept stays.1 stays.2
    | disconnected => exact private_handleDisconnected kept known stays
    | connectFailed =>
      simp only [eventStaysPrivate, Bool.or_eq_true, decide_eq_true_eq, Bool.not_eq_true'] at stays
      cases wish : wanted s with
      | false => exact private_offline kept wish rfl
      | true =>
        have other := stays.resolve_right (by simp [wish])
        exact private_write kept (by simp [sameWish, other]) rfl
    | error => exact private_blind kept rfl
    | clientJoined | clientLeft => exact private_write kept stays rfl
    | channelsUpdated =>
      dsimp only
      split
      · exact private_write kept stays rfl
      · exact kept
    | other notice =>
      cases notice with
      | none => exact kept
      | some notice => exact private_blind kept rfl

theorem wantsMic_muted {st : TsConnectionState} (off : st.wantsMic = false) :
    { st.copy with inputMuted := true }.wantsMic = false := by
  have written : { st.copy with inputMuted := true }.wantsMic =
      if st.forcedPtt then st.pttPressed else if st.pttMode then st.pttPressed else !true := rfl
  rw [written]
  rw [TsConnectionState.wantsMic] at off
  cases forced : st.forcedPtt <;> cases mode : st.pttMode <;> simp_all

/-- All sessions are muted, the one of the microphone among them. -/
theorem private_resumeMuted (kept : Private s) (off : wanted s = false) :
    Private s.resumeMuted := by
  have mic : SameMic s s.resumeMuted :=
    sameMic_writeAll (fun st => { st.copy with inputMuted := true }) s.sessions.keys
  have tabs : SameTabs s s.resumeMuted := sameTabs_foldl _ fun _ _ => sameTabs_setSession
  have state : s.resumeMuted.stateOf s.micConnectionId =
      if s.micConnectionId ∈ s.sessions.keys then
        { (s.stateOf s.micConnectionId).copy with inputMuted := true }
      else s.stateOf s.micConnectionId :=
    stateOf_writeAll (fun st => { st.copy with inputMuted := true }) s.sessions.keys
      s.sessions.nodup
  refine private_tabs kept mic tabs ?_ fun on => by simp [off] at on
  rw [off]
  rw [wanted_eq] at off ⊢
  rw [tabs.micConnectionId, state, wantedWith, tabs.micConnectionId]
  rw [wantedWith] at off
  split
  · simp only [Bool.and_eq_false_iff] at off ⊢
    exact off.imp_left fun off => off.imp_right wantsMic_muted
  · exact off

theorem private_reconcileRoster {clients : List TsClient} (kept : Private s)
    (stays : staysPrivate s (.reconcileRoster cid clients) = true) :
    Private (s.reconcileRoster cid clients) := by
  have pruned {s : VoiceApp} (kept : Private s) : Private (s.pruneWhisperTargets cid) :=
    private_keeps kept sameMic_pruneWhisperTargets sameTabs_pruneWhisperTargets
      (keeps_pruneWhisperTargets fun _ _ _ _ => rfl)
  simp only [staysPrivate, Bool.or_eq_true, decide_eq_true_eq] at stays
  simp only [reconcileRoster]
  split
  · rename_i changes
    exact pruned (private_write kept (stays.resolve_left changes.1) rfl)
  · exact pruned kept

theorem private_step {action : Action} (kept : Private s)
    (stays : staysPrivate s action = true) (taken : s.step action = some t) : Private t := by
  have blind (spares : action.sparesMic = true) (moves : action.movesTabs = false)
      (keeps : Keeps micView s t) : Private t :=
    private_keeps kept (sameMic_step spares taken) (sameTabs_step moves taken) keeps
  cases updates : action.updatesMic with
  | true =>
    have checked : checksUpdates settles s action = true := by
      cases action <;> first | exact stays | cases updates
    refine updates_rule
      (fun s r kept flagged settled => private_updateMicState kept flagged settled)
      (fun s cid change kept => ?_) kept updates checked taken
    exact private_keeps kept ⟨rfl, rfl, rfl, rfl, rfl⟩ sameTabs_modifyRt keeps_modifyRt
  | false =>
    cases action with
    | toggleInputMute | setFullMute | setFullMuteAll | togglePttMode | setPttPressed
    | onAudioFocusLost | onAudioFocusRegained | notificationMute => cases updates
    | openSession => cases taken; exact private_openSession kept stays
    | selectSession => cases taken; exact private_selectSession kept stays
    | cancelConnect => cases taken; exact private_cancelConnect kept stays
    | disconnect => cases taken; exact private_disconnect kept stays
    | event => cases taken; exact private_handleEvent kept stays
    | reconcileRoster => cases taken; exact private_reconcileRoster kept stays
    | resumeMuted =>
      cases taken
      exact private_resumeMuted kept (by simpa [staysPrivate] using stays)
    | permissionAnswered => exact private_permissionAnswered kept stays taken
    | orphanAnswered =>
      simp [VoiceApp.step, orphanAnswered, kept.orphaned] at taken
    | handleMicData => cases taken; exact private_handleMicData kept
    | loadAudioPreferences =>
      cases taken
      exact blind rfl rfl (keeps_loadAudioPreferences fun _ => rfl)
    | loadHistoryPreferences =>
      cases taken
      exact blind rfl rfl (keeps_loadHistoryPreferences fun _ => rfl)
    | retry => cases taken; exact blind rfl rfl (keeps_retry fun _ => rfl)
    | toggleOutputMute => cases taken; exact blind rfl rfl (keeps_toggleOutputMute fun _ _ => rfl)
    | setVadThreshold => cases taken; exact blind rfl rfl (keeps_setVadThreshold fun _ => rfl)
    | setVadEnabled => cases taken; exact blind rfl rfl (keeps_setVadEnabled fun _ => rfl)
    | setMicGain => cases taken; exact blind rfl rfl (keeps_setMicGain fun _ => rfl)
    | applyWhisperPreferences =>
      cases taken
      exact blind rfl rfl (keeps_applyWhisperPreferences fun _ => rfl)
    | setWhisperTargets =>
      cases taken
      exact blind rfl rfl (keeps_setWhisperTargets fun _ _ _ _ => rfl)
    | setWhisperActive =>
      cases taken
      exact blind rfl rfl (keeps_setWhisperActive (fun _ _ => rfl) fun _ _ => rfl)
    | setWhisperAllowlistEnabled =>
      cases taken
      exact blind rfl rfl (keeps_setWhisperAllowlistEnabled fun _ => rfl)
    | toggleWhisperAllowedUid =>
      cases taken
      exact blind rfl rfl (keeps_toggleWhisperAllowedUid fun _ _ => rfl)
    | engineConnected | engineRemoved => cases taken; exact blind rfl rfl .refl

end Private

/-- In every run that stays private, the microphone is private. -/
theorem microphone_is_private (actions : List Action) (s : VoiceApp)
    (run : Run VoiceApp.step (fun s action => staysPrivate s action = true) .build actions s) :
    MicPrivate s := by
  have initial : Private .build := by
    refine ⟨registered_build, ?_, rfl, rfl, rfl, rfl, ?_, ?_⟩
    · intro v serving
      cases serving
    · intro on
      cases on
    · intro frame listed
      cases listed
  exact (run.invariant Private initial fun _ _ _ before stays taken =>
    private_step before stays taken).micPrivate

/-- The session connects muted, and the microphone goes on when the user unmutes it. -/
def quietHistory : List Action :=
  [.openSession none, .toggleInputMute 1, .engineConnected 1 5,
    .event 1 (.connected ⟨some 5, "", 0, [], []⟩), .toggleInputMute 1, .permissionAnswered true,
    .handleMicData]

theorem unmuted_microphone_is_private :
    ∃ s : VoiceApp, s.sent = [⟨1, false⟩] ∧ captureOn s = true ∧ MicPrivate s := by
  obtain ⟨s, run, reached⟩ := reaches_of_guarded staysPrivate (show
    (exec (guarded staysPrivate VoiceApp.step) .build quietHistory).any (fun s =>
      s.sent == [⟨1, false⟩] && captureOn s) = true by
    decide +kernel)
  simp only [Bool.and_eq_true, beq_iff_eq] at reached
  exact ⟨s, reached.1, reached.2, microphone_is_private quietHistory s run⟩

/-- The microphone is on for session 2 when the user goes back to session 1. -/
def switchedHistory : List Action :=
  [.openSession none, .engineConnected 1 5, .event 1 (.connected ⟨some 5, "", 0, [], []⟩),
    .openSession none, .engineConnected 2 7, .event 2 (.connected ⟨some 7, "", 0, [], []⟩),
    .toggleInputMute 2, .toggleInputMute 2, .permissionAnswered true, .selectSession 1,
    .handleMicData]

/-- What is said with session 1 on the screen goes to session 2. -/
theorem other_session_hears :
    ∃ s, Run VoiceApp.step anyStep .build switchedHistory s ∧ s.selectedId = some 1 ∧
      s.audioService = some ⟨2, true, true, 0⟩ ∧ s.sent = [⟨2, false⟩] ∧ ¬ MicPrivate s := by
  obtain ⟨s, run, reached⟩ := reaches_of_exec anyStep (fun _ _ _ => trivial) (show
    (exec VoiceApp.step .build switchedHistory).any (fun s =>
      s.selectedId == some 1 && s.audioService == some ⟨2, true, true, 0⟩ &&
        s.sent == [⟨2, false⟩]) = true by
    decide +kernel)
  simp only [Bool.and_eq_true, beq_iff_eq] at reached
  obtain ⟨⟨selected, serving⟩, sent⟩ := reached
  refine ⟨s, run, selected, serving, sent, fun ok => ?_⟩
  have target := ok.target _ serving
  rw [selected] at target
  cases target

end Nek0.Guarantees
