import Nek0.Library.Run
import Nek0.Source.ResumeApp

/-!
# The mute survives the death of the process

The entry for a resume is written when its session gets connected and never again, and a resume
mutes all sessions. So the entry on disk has the mute in force exactly as long as nothing mutes
or unmutes its session, and a resume leaves the other sessions alone exactly if they are muted
already. The resumed session is muted before anything is captured for it.
-/

namespace Nek0.Guarantees

open Nek0.Library Nek0.Source.Resume
open Nek0.Source (ConnectionId)
open Nek0.Source.Voice (VoiceApp)

/-- The app with the sessions that a resume has muted and nothing else since, and whether a resume
has changed the mute of another session. -/
structure ResumeHistory where
  app : ResumeApp
  muted : ConnectionId → Bool
  disturbed : Bool

namespace ResumeHistory

def start (disk : Option Entry) : ResumeHistory := ⟨.build disk, fun _ => false, false⟩

/-- The sessions whose mute an action writes do not count any more. -/
def keepMuted (k : ResumeHistory) : ResumeApp.Action → ConnectionId → Bool
  | .voice action => fun cid => k.muted cid && (k.app.voice.mutesTo cid action).isNone
  | .resumed intent accepted _ => fun cid =>
    k.muted cid || intent.micWasMuted && accepted && cid = k.app.voice.engine.nextConnectionId
  | .died => fun _ => false
  | _ => k.muted

/-- A resume has changed the mute of a session that it did not open. -/
def disturbs (k : ResumeHistory) (after : ResumeApp) : ResumeApp.Action → Bool
  | .resumed _ accepted _ => k.app.voice.sessions.keys.any fun cid =>
    !(accepted && cid = k.app.voice.engine.nextConnectionId) &&
      (after.voice.stateOf cid).inputMuted != (k.app.voice.stateOf cid).inputMuted
  | _ => false

def step (k : ResumeHistory) (action : ResumeApp.Action) : Option ResumeHistory :=
  (k.app.step action).map fun after =>
    ⟨after, k.keepMuted action, k.disturbed || k.disturbs after action⟩

end ResumeHistory

/-- The session that an entry is for, and whether it says muted. -/
def recordOf (entry : Option Entry) : Option (ConnectionId × Bool) :=
  entry.bind fun entry => entry.session.bind fun cid =>
    (ResumeIntentStore.load entry.texts).map fun intent => (cid, intent.micWasMuted)

/-- The entry has the mute in force of its session, if that is connected. -/
def Current (s : VoiceApp) (entry : Option Entry) : Prop :=
  ∀ record ∈ recordOf entry, (s.stateOf record.1).connected = true →
    record.2 = (s.stateOf record.1).inputMuted

instance (s : VoiceApp) (entry : Option Entry) : Decidable (Current s entry) := by
  unfold Current
  infer_instance

/-- The entry on disk is current, a session that was muted when the process died is muted after
the resume, with nothing captured for it before, and no resume has muted or unmuted another
session. -/
structure MuteRemembered (k : ResumeHistory) : Prop where
  current : Current k.app.voice k.app.disk
  muted : ∀ cid, k.muted cid = true → (k.app.voice.stateOf cid).inputMuted = true ∧
    ∀ frame ∈ k.app.voice.sent, frame.connectionId = cid → frame.inputMuted = true
  undisturbed : k.disturbed = false

/-- No action mutes or unmutes the connected session that the entry on disk is for, and none
connects it with another mute than the entry has; a write lands before the mute it has seen has
changed; and all other sessions are muted when a resume mutes them. -/
def remembers (k : ResumeHistory) : ResumeApp.Action → Bool
  | .voice action => (recordOf k.app.disk).all fun record =>
    let st := k.app.voice.stateOf record.1
    !k.app.voice.connectedAfter record.1 action ||
      k.app.voice.mutesTo record.1 action != some !st.inputMuted &&
        (st.connected || record.2 == st.inputMuted)
  | .resumed intent accepted _ => !intent.micWasMuted ||
    k.app.voice.sessions.keys.all fun cid =>
      accepted && cid = k.app.voice.engine.nextConnectionId || (k.app.voice.stateOf cid).inputMuted
  | .landed => k.app.writes.head?.all fun write => decide (Current k.app.voice write)
  | _ => true

section Resume

variable {s t : VoiceApp} {entry : Option Entry}

/-- A session that gets connected keeps its mute. -/
theorem mutesTo_of_connects {cid : ConnectionId} {action : VoiceApp.Action}
    (offline : (s.stateOf cid).connected = false) (reached : s.connectedAfter cid action = true) :
    s.mutesTo cid action = none := by
  cases action with
  | event other event =>
    cases event with
    | connected => rfl
    | _ => simp [VoiceApp.connectedAfter, offline] at reached
  | _ => simp [VoiceApp.connectedAfter, offline] at reached

theorem current_voice_iff {action : VoiceApp.Action} (current : Current s entry)
    (taken : s.step action = some t) :
    Current t entry ↔ (recordOf entry).all (fun record =>
      !s.connectedAfter record.1 action ||
        s.mutesTo record.1 action != some !(s.stateOf record.1).inputMuted &&
          ((s.stateOf record.1).connected || record.2 == (s.stateOf record.1).inputMuted)) =
        true := by
  have each (record : ConnectionId × Bool) (recorded : record ∈ recordOf entry) :
      ((t.stateOf record.1).connected = true → record.2 = (t.stateOf record.1).inputMuted) ↔
        (!s.connectedAfter record.1 action ||
          s.mutesTo record.1 action != some !(s.stateOf record.1).inputMuted &&
            ((s.stateOf record.1).connected || record.2 == (s.stateOf record.1).inputMuted)) =
          true := by
    have before := current record recorded
    have silent (offline : (s.stateOf record.1).connected = false)
        (reached : s.connectedAfter record.1 action = true) : s.mutesTo record.1 action = none :=
      mutesTo_of_connects offline reached
    rw [VoiceApp.connected_step taken, VoiceApp.muted_step taken]
    cases reached : s.connectedAfter record.1 action with
    | false => simp
    | true =>
      cases live : (s.stateOf record.1).connected with
      | false => simp [silent live reached]
      | true =>
        rw [live] at before
        rw [before rfl]
        cases s.mutesTo record.1 action with
        | none => simp
        | some muted => cases muted <;> cases (s.stateOf record.1).inputMuted <;> simp
  rw [Option.all_eq_true]
  exact forall₂_congr each

theorem keys_openSession {savedMicGain : Option ℚ} {cid : ConnectionId} :
    cid ∈ (s.openSession savedMicGain).sessions.keys ↔
      cid = s.engine.nextConnectionId ∨ cid ∈ s.sessions.keys := by
  cases savedMicGain with
  | none => exact VoiceApp.mem_keys_insert
  | some gain =>
    refine VoiceApp.mem_keys_insert.trans ?_
    exact (or_congr_right VoiceApp.mem_keys_insert).trans or_self_left

theorem view_openSession {savedMicGain : Option ℚ} :
    VoiceApp.Keeps VoiceApp.muteView s (s.openSession savedMicGain) :=
  VoiceApp.keeps_openSession (fun _ _ => rfl) fun _ => rfl

end Resume

/-- What a resume does to the voice part. -/
structure Resumed (s t : ResumeApp) (intent : ResumeIntent) (accepted : Bool) : Prop where
  connected : ∀ cid, (t.voice.stateOf cid).connected = (s.voice.stateOf cid).connected
  muted : ∀ cid, (t.voice.stateOf cid).inputMuted =
    if intent.micWasMuted = true ∧ ((accepted = true ∧ cid = s.voice.engine.nextConnectionId) ∨
      cid ∈ s.voice.sessions.keys) then true else (s.voice.stateOf cid).inputMuted
  sent : t.voice.sent = s.voice.sent
  record : ∀ record ∈ recordOf t.disk, record ∈ recordOf s.disk ∨
    record.1 = s.voice.engine.nextConnectionId
  kept : ∀ record ∈ recordOf s.disk, record ∈ recordOf t.disk

section Resumed

variable {s : ResumeApp} {intent : ResumeIntent} {accepted : Bool} {savedMicGain : Option ℚ}

/-- An entry of an earlier process, which is for no session, is now for the next one. -/
theorem recordOf_claimed {entry : Option Entry} {next : ConnectionId}
    {record : ConnectionId × Bool} :
    let claimed := entry.map fun entry => { entry with session := entry.session.or (some next) }
    (record ∈ recordOf claimed → record ∈ recordOf entry ∨ record.1 = next) ∧
      (record ∈ recordOf entry → record ∈ recordOf claimed) := by
  cases entry with
  | none => simp [recordOf]
  | some entry =>
    obtain ⟨texts, session⟩ := entry
    cases session with
    | some cid => exact ⟨.inl, id⟩
    | none =>
      constructor
      · intro claimed
        simp only [recordOf, Option.map_some, Option.none_or, Option.bind_some,
          Option.mem_map] at claimed
        obtain ⟨intent, -, rfl⟩ := claimed
        exact .inr rfl
      · intro none
        simp [recordOf] at none

theorem sent_openSession {s : VoiceApp} : (s.openSession savedMicGain).sent = s.sent := by
  have taken : s.step (.openSession savedMicGain) = some (s.openSession savedMicGain) := rfl
  exact VoiceApp.sent_step taken nofun

theorem resumeMuted_effects {s : VoiceApp} (cid : ConnectionId) :
    (s.resumeMuted.stateOf cid).connected = (s.stateOf cid).connected ∧
      (s.resumeMuted.stateOf cid).inputMuted =
        (if cid ∈ s.sessions.keys then true else (s.stateOf cid).inputMuted) ∧
      s.resumeMuted.sent = s.sent := by
  have taken : s.step .resumeMuted = some s.resumeMuted := rfl
  exact ⟨VoiceApp.connected_step taken cid, VoiceApp.muted_resumeMuted,
    VoiceApp.sent_step taken nofun⟩

theorem resumed_effects : Resumed s (s.resumed intent accepted savedMicGain) intent accepted := by
  have view : VoiceApp.Keeps VoiceApp.muteView s.voice (s.voice.openSession savedMicGain) :=
    view_openSession
  have opened (cid : ConnectionId) := view cid
  simp only [VoiceApp.muteView, Prod.mk.injEq] at opened
  have sentOpened : (s.voice.openSession savedMicGain).sent = s.voice.sent :=
    sent_openSession
  have sentMuted (v : VoiceApp) : v.resumeMuted.sent = v.sent :=
    (resumeMuted_effects 0).2.2
  cases accepted with
  | false =>
    cases recorded : intent.micWasMuted with
    | false =>
      simp only [ResumeApp.resumed, recorded]
      exact ⟨fun _ => rfl, by simp [recorded], rfl, fun _ => .inl, fun _ => id⟩
    | true =>
      simp only [ResumeApp.resumed, recorded]
      refine ⟨fun cid => (resumeMuted_effects cid).1, fun cid => ?_, sentMuted _, fun _ => .inl,
        fun _ => id⟩
      refine (resumeMuted_effects cid).2.1.trans ?_
      simp [recorded]
  | true =>
    cases recorded : intent.micWasMuted with
    | false =>
      simp only [ResumeApp.resumed, recorded]
      refine ⟨fun cid => (opened cid).2, fun cid => ?_, sentOpened,
        fun _ => recordOf_claimed.1, fun _ => recordOf_claimed.2⟩
      exact (opened cid).1.trans (by simp [recorded])
    | true =>
      simp only [ResumeApp.resumed, recorded]
      refine ⟨fun cid => (resumeMuted_effects cid).1.trans (opened cid).2, fun cid => ?_,
        (sentMuted _).trans sentOpened, fun _ => recordOf_claimed.1, fun _ => recordOf_claimed.2⟩
      refine (resumeMuted_effects (s := s.voice.openSession savedMicGain) cid).2.1.trans ?_
      simp only [keys_openSession, (opened cid).1, recorded, true_and]

end Resumed

section Run

variable {k after : ResumeHistory}

theorem issued_resumeStep {s t : ResumeApp} {action : ResumeApp.Action}
    (issued : VoiceApp.Issued s.voice) (taken : s.step action = some t) :
    VoiceApp.Issued t.voice := by
  have opens (savedMicGain : Option ℚ) : VoiceApp.Issued (s.voice.openSession savedMicGain) := by
    have moved : s.voice.step (.openSession savedMicGain) = some _ := rfl
    exact VoiceApp.issued_step issued moved
  have mutes {v : VoiceApp} (issued : VoiceApp.Issued v) : VoiceApp.Issued v.resumeMuted := by
    have moved : v.step .resumeMuted = some _ := rfl
    exact VoiceApp.issued_step issued moved
  cases action with
  | connect address nickname savedMicGain =>
    obtain rfl := Option.some.inj taken
    exact opens savedMicGain
  | voice action =>
    simp only [ResumeApp.step, Option.ite_none_left_eq_some, Option.map_eq_some_iff] at taken
    obtain ⟨-, voice, moved, rfl⟩ := taken
    exact VoiceApp.issued_step issued moved
  | resume =>
    simp only [ResumeApp.step, Option.bind_eq_some_iff, Option.ite_none_right_eq_some,
      Option.some.injEq] at taken
    obtain ⟨intent, -, -, rfl⟩ := taken
    exact issued
  | resumed intent accepted savedMicGain =>
    simp only [ResumeApp.step, Option.ite_none_right_eq_some, Option.some.injEq] at taken
    obtain ⟨-, rfl⟩ := taken
    cases accepted <;> cases recorded : intent.micWasMuted <;>
      simp only [ResumeApp.resumed, recorded]
    · exact issued
    · exact mutes issued
    · exact opens savedMicGain
    · exact mutes (opens savedMicGain)
  | dismiss =>
    obtain rfl := Option.some.inj taken
    exact issued
  | landed =>
    simp only [ResumeApp.step] at taken
    split at taken
    · cases taken
    · obtain rfl := Option.some.inj taken
      exact issued
  | died =>
    obtain rfl := Option.some.inj taken
    exact VoiceApp.issued_build

/-- What a session muted by a resume keeps until its mute is written. -/
theorem muted_voice {action : VoiceApp.Action} {t : VoiceApp} {cid : ConnectionId}
    (taken : k.app.voice.step action = some t)
    (before : (k.app.voice.stateOf cid).inputMuted = true ∧
      ∀ frame ∈ k.app.voice.sent, frame.connectionId = cid → frame.inputMuted = true)
    (unwritten : k.app.voice.mutesTo cid action = none) :
    (t.stateOf cid).inputMuted = true ∧
      ∀ frame ∈ t.sent, frame.connectionId = cid → frame.inputMuted = true := by
  constructor
  · rw [VoiceApp.muted_step taken, unwritten]
    exact before.1
  · intro frame sent captured
    by_cases captures : action = .handleMicData
    · subst captures
      cases taken
      rcases VoiceApp.mem_handleMicData_sent sent with old | ⟨-, fresh⟩
      · exact before.2 frame old captured
      · rw [fresh, captured]
        exact before.1
    · rw [VoiceApp.sent_step taken captures] at sent
      exact before.2 frame sent captured

theorem remembered_voice_iff {action : VoiceApp.Action} (remembered : MuteRemembered k)
    (taken : k.step (.voice action) = some after) :
    MuteRemembered after ↔ remembers k (.voice action) = true := by
  obtain ⟨app, stepped, rfl⟩ := Option.map_eq_some_iff.mp taken
  simp only [ResumeApp.step, Option.ite_none_left_eq_some, Option.map_eq_some_iff] at stepped
  obtain ⟨-, voice, moved, rfl⟩ := stepped
  refine Iff.trans ⟨fun after => after.current, fun current => ⟨current, fun cid muted => ?_, ?_⟩⟩
    (current_voice_iff remembered.current moved)
  · simp only [ResumeHistory.keepMuted, Bool.and_eq_true, Option.isNone_iff_eq_none] at muted
    exact muted_voice moved (remembered.muted cid muted.1) muted.2
  · simp [remembered.undisturbed, ResumeHistory.disturbs]

/-- A resume that mutes leaves the other sessions alone exactly if they are muted. -/
theorem remembered_resumed_iff {intent : ResumeIntent} {accepted : Bool} {savedMicGain : Option ℚ}
    (issued : VoiceApp.Issued k.app.voice) (remembered : MuteRemembered k)
    (taken : k.step (.resumed intent accepted savedMicGain) = some after) :
    MuteRemembered after ↔ remembers k (.resumed intent accepted savedMicGain) = true := by
  obtain ⟨app, stepped, rfl⟩ := Option.map_eq_some_iff.mp taken
  simp only [ResumeApp.step, Option.ite_none_right_eq_some, Option.some.injEq] at stepped
  obtain ⟨-, rfl⟩ := stepped
  have effects : Resumed k.app (k.app.resumed intent accepted savedMicGain) intent accepted :=
    resumed_effects
  have changed (cid : ConnectionId) (listed : cid ∈ k.app.voice.sessions.keys) :
      ((k.app.resumed intent accepted savedMicGain).voice.stateOf cid).inputMuted =
        (intent.micWasMuted || (k.app.voice.stateOf cid).inputMuted) := by
    rw [effects.muted]
    cases intent.micWasMuted <;> simp [listed]
  have stays (cid : ConnectionId) (muted : (k.app.voice.stateOf cid).inputMuted = true) :
      ((k.app.resumed intent accepted savedMicGain).voice.stateOf cid).inputMuted = true := by
    rw [effects.muted, muted, ite_self]
  constructor
  · intro after
    have quiet := after.undisturbed
    simp only [remembered.undisturbed, Bool.false_or, ResumeHistory.disturbs,
      List.any_eq_false] at quiet
    cases recorded : intent.micWasMuted with
    | false => simp [remembers, recorded]
    | true =>
      simp only [remembers, recorded, Bool.not_true, Bool.false_or, List.all_eq_true]
      intro cid listed
      have same := quiet cid listed
      rw [changed cid listed, recorded] at same
      revert same
      cases accepted && decide (cid = k.app.voice.engine.nextConnectionId) <;>
        cases (k.app.voice.stateOf cid).inputMuted <;> simp
  · intro others
    have silent (cid : ConnectionId) (listed : cid ∈ k.app.voice.sessions.keys)
        (old : cid ≠ k.app.voice.engine.nextConnectionId ∨ accepted = false) :
        ((k.app.resumed intent accepted savedMicGain).voice.stateOf cid).inputMuted =
          (k.app.voice.stateOf cid).inputMuted := by
      rw [changed cid listed]
      simp only [remembers, Bool.or_eq_true, Bool.not_eq_true', List.all_eq_true,
        Bool.and_eq_true, decide_eq_true_eq] at others
      rcases others with live | muted
      · rw [live, Bool.false_or]
      · rcases muted cid listed with ⟨opened, same⟩ | muted
        · exact absurd opened (by simpa using old.resolve_left fun different => different same)
        · rw [muted, Bool.or_true]
    refine ⟨fun record recorded live => ?_, fun cid muted => ?_, ?_⟩
    · rw [effects.connected] at live
      have issuedBefore := issued.connected record.1 live
      have different := Nat.ne_of_lt issuedBefore
      have before := (effects.record record recorded).resolve_right different
      rw [silent record.1 (VoiceApp.listed_of_connected live) (.inl different)]
      exact remembered.current record before live
    · simp only [ResumeHistory.keepMuted, Bool.or_eq_true, Bool.and_eq_true,
        decide_eq_true_eq] at muted
      rw [effects.sent]
      rcases muted with before | ⟨⟨recorded, opened⟩, rfl⟩
      · have held := remembered.muted cid before
        exact ⟨stays cid held.1, held.2⟩
      · refine ⟨?_, fun frame sent captured => ?_⟩
        · rw [effects.muted, if_pos ⟨recorded, .inl ⟨opened, rfl⟩⟩]
        · exact absurd captured (Nat.ne_of_lt (issued.sent frame sent))
    · simp only [remembered.undisturbed, Bool.false_or, ResumeHistory.disturbs,
        List.any_eq_false]
      intro cid listed
      by_cases opened : accepted = true ∧ cid = k.app.voice.engine.nextConnectionId
      · simp [opened]
      · have old : cid ≠ k.app.voice.engine.nextConnectionId ∨ accepted = false := by
          rw [Decidable.not_and_iff_or_not] at opened
          exact opened.symm.imp_right Bool.eq_false_of_not_eq_true
        rw [silent cid listed old]
        simp

theorem remembered_step_iff {action : ResumeApp.Action} (issued : VoiceApp.Issued k.app.voice)
    (remembered : MuteRemembered k) (taken : k.step action = some after) :
    MuteRemembered after ↔ remembers k action = true := by
  cases action with
  | voice action => exact remembered_voice_iff remembered taken
  | resumed intent accepted savedMicGain =>
    exact remembered_resumed_iff issued remembered taken
  | connect address nickname savedMicGain =>
    obtain rfl := Option.some.inj taken
    have view : VoiceApp.Keeps VoiceApp.muteView k.app.voice
        (k.app.voice.openSession savedMicGain) := view_openSession
    have opened (cid : ConnectionId) := view cid
    simp only [VoiceApp.muteView, Prod.mk.injEq] at opened
    have sent : (k.app.voice.openSession savedMicGain).sent = k.app.voice.sent :=
      sent_openSession
    refine ⟨fun _ => rfl, fun _ => ⟨fun record recorded live => ?_, fun cid muted => ?_, ?_⟩⟩
    · have before := (opened record.1).2.symm.trans live
      exact (remembered.current record recorded before).trans (opened record.1).1.symm
    · have held := remembered.muted cid muted
      refine ⟨(opened cid).1.trans held.1, fun frame captured => ?_⟩
      exact held.2 frame (sent ▸ captured)
    · simp [remembered.undisturbed, ResumeHistory.disturbs]
  | resume =>
    obtain ⟨app, stepped, rfl⟩ := Option.map_eq_some_iff.mp taken
    simp only [ResumeApp.step, Option.bind_eq_some_iff, Option.ite_none_right_eq_some,
      Option.some.injEq] at stepped
    obtain ⟨intent, -, -, rfl⟩ := stepped
    refine ⟨fun _ => rfl, fun _ => ⟨remembered.current, remembered.muted, ?_⟩⟩
    simp [remembered.undisturbed, ResumeHistory.disturbs]
  | dismiss =>
    obtain rfl := Option.some.inj taken
    refine ⟨fun _ => rfl, fun _ => ⟨remembered.current, remembered.muted, ?_⟩⟩
    simp [remembered.undisturbed, ResumeHistory.disturbs]
  | landed =>
    obtain ⟨app, stepped, rfl⟩ := Option.map_eq_some_iff.mp taken
    simp only [ResumeApp.step] at stepped
    split at stepped
    · cases stepped
    · rename_i write writes waiting
      obtain rfl := Option.some.inj stepped
      simp only [remembers, waiting, List.head?_cons, Option.all_some, decide_eq_true_eq]
      refine ⟨fun after => after.current, fun current => ⟨current, remembered.muted, ?_⟩⟩
      simp [remembered.undisturbed, ResumeHistory.disturbs]
  | died =>
    obtain rfl := Option.some.inj taken
    refine ⟨fun _ => rfl, fun _ => ⟨fun record recorded live => ?_, fun cid muted => ?_, ?_⟩⟩
    · cases live
    · cases muted
    · simp [remembered.undisturbed, ResumeHistory.disturbs]

end Run

/-- In every run, the entry on disk has the mute in force, and every resume mutes its session before
anything is captured and no other one, exactly if the mutes and the resumes are as the code
expects them. -/
theorem resume_remembers_mute_iff (disk : Option Entry) (actions : List ResumeApp.Action)
    (k : ResumeHistory) (run : Run ResumeHistory.step anyStep (.start disk) actions k) :
    (∀ earlier u, earlier <+: actions → Run ResumeHistory.step anyStep (.start disk) earlier u →
      MuteRemembered u) ↔
      Run ResumeHistory.step (fun u action => remembers u action = true) (.start disk) actions k :=
  run.always_iff (fun u => VoiceApp.Issued u.app.voice) VoiceApp.issued_build
    ⟨fun _ _ live => (nomatch live), fun _ muted => (nomatch muted), rfl⟩
    (fun _ _ _ issued taken => by
      obtain ⟨app, stepped, rfl⟩ := Option.map_eq_some_iff.mp taken
      exact issued_resumeStep issued stepped)
    fun _ _ _ issued remembered taken => remembered_step_iff issued remembered taken

/-- A session is muted while it gets connected, and again after the process has died. -/
def mutedDeath : List ResumeApp.Action :=
  [.connect "server" "user" none, .voice (.toggleInputMute 1),
    .voice (.event 1 (.connected ⟨some 5, "", 0, [], []⟩)), .landed, .died, .resume,
    .resumed ⟨"server", "user", none, true⟩ true none, .voice (.engineConnected 1 6),
    .voice (.event 1 (.connected ⟨some 6, "", 0, [], []⟩)), .voice .handleMicData, .landed]

theorem muted_session_resumes_muted :
    ∃ k : ResumeHistory, (k.app.voice.stateOf 1).connected = true ∧ k.muted 1 = true ∧
      MuteRemembered k := by
  obtain ⟨k, run, reached⟩ := reaches_of_guarded remembers (show
    (exec (guarded remembers ResumeHistory.step) (.start none) mutedDeath).any (fun k =>
      (k.app.voice.stateOf 1).connected && k.muted 1) = true by
    decide +kernel)
  simp only [Bool.and_eq_true] at reached
  have visited := run.weaken fun _ _ _ => trivial
  exact ⟨k, reached.1, reached.2,
    (resume_remembers_mute_iff none mutedDeath k visited).mpr run mutedDeath k List.prefix_rfl
      visited⟩

/-- The user mutes a session that has been connected. -/
def mutedLater : List ResumeApp.Action :=
  [.connect "server" "user" none, .voice (.event 1 (.connected ⟨some 5, "", 0, [], []⟩)), .landed,
    .voice (.toggleInputMute 1)]

/-- The entry on disk would open the microphone of a user who is muted. -/
theorem later_mute_is_forgotten :
    ¬ ∀ (disk : Option Entry) (actions : List ResumeApp.Action) (k : ResumeHistory),
      Run ResumeHistory.step anyStep (.start disk) actions k → MuteRemembered k := by
  intro remembered
  obtain ⟨k, run, reached⟩ := reaches_of_exec anyStep (fun _ _ _ => trivial) (show
    (exec ResumeHistory.step (.start none) mutedLater).any (fun k =>
      decide (¬ Current k.app.voice k.app.disk)) = true by
    decide +kernel)
  exact of_decide_eq_true reached (remembered none mutedLater k run).current

end Nek0.Guarantees
