import Nek0.Library.Run
import Nek0.Source.VoiceEffects

/-!
# Voice settings of app and engine

The app and the engine hold the voice settings of a session twice and start from
different values. They agree in every connected session once the voice gate and its
threshold have been set in it, as long as the gate follows push-to-talk and the engine
takes the whisper lists that it is given.
-/

namespace Nek0.Guarantees

open Nek0.Library Nek0.Source.Voice Nek0.Source.Voice.VoiceApp Nek0.Source.Voice.TsConnection
open Nek0.Source (ConnectionId)

/-- What has been set in a session since it was opened. -/
structure Told where
  vad : Bool
  threshold : Bool
  deriving DecidableEq, Repr

/-- The app with what has been set in each session that it has not given up. -/
structure Tracked where
  app : VoiceApp
  told : ConnectionId → Option Told

namespace Tracked

def start : Tracked := ⟨.build, fun _ => none⟩

def tell (told : ConnectionId → Option Told) (cid : ConnectionId) (change : Told → Told) :
    ConnectionId → Option Told :=
  Function.update told cid ((told cid).map change)

/-- What is set in which session by a step. -/
def record (k : Tracked) : Action → ConnectionId → Option Told
  | .openSession _ => Function.update k.told k.app.engine.nextConnectionId (some ⟨false, false⟩)
  | .cancelConnect cid => Function.update k.told cid none
  | .event cid (.disconnected ..) =>
    if (k.app.rt.find cid).isSome && !(k.app.stateOf cid).connecting then
      Function.update k.told cid none
    else k.told
  | .setVadEnabled cid _ => tell k.told cid fun told => { told with vad := true }
  | .setVadThreshold cid _ => tell k.told cid fun told => { told with threshold := true }
  | .togglePttMode cid => tell k.told cid fun told =>
      ⟨true, told.threshold || (k.app.stateOf cid).pttMode⟩
  | _ => k.told

def step (k : Tracked) (action : Action) : Option Tracked :=
  (k.app.step action).map fun app => ⟨app, k.record action⟩

/-- The engine takes an own client id without touching the targets it has. -/
def targetsSpare (st : TsConnectionState) (c : TsConnection) (ownClientId : Nat) : Bool :=
  sanitizeClients st.whisperTargetClientIds c.ownClientId =
    sanitizeClients st.whisperTargetClientIds ownClientId

/-- A session connects only with its gate and its threshold set; the gate is not opened
in push-to-talk mode, and the mode not left with the gate shut; the engine can read the
whisper lists and does not refuse to arm; whisper preferences are applied only without
targets; and a new session has no settings of its own yet. -/
def inStep (k : Tracked) : Action → Bool
  | .openSession _ => (k.app.sessions.find k.app.engine.nextConnectionId).isNone
  | .event cid (.connected _) =>
    (cid ≠ 0 && (k.app.rt.find cid).isNone) || k.told cid = some ⟨true, true⟩
  | .setVadEnabled cid enabled => !(enabled && (k.app.stateOf cid).pttMode)
  | .togglePttMode cid => (k.app.stateOf cid).vadEnabled || !(k.app.stateOf cid).pttMode
  | .setWhisperTargets _ clientIds channelIds => readable clientIds channelIds
  | .setWhisperActive cid active =>
    !active || !(k.app.stateOf cid).whisperActive ||
      (k.app.engine.sessions cid).all (·.hasTarget)
  | .applyWhisperPreferences cid _ _ =>
    !(k.app.stateOf cid).hasWhisperTargets && !(k.app.stateOf cid).whisperActive
  | .engineConnected cid ownClientId =>
    (k.app.engine.sessions cid).all fun c => targetsSpare (k.app.stateOf cid) c ownClientId
  | _ => true

end Tracked

/-- The engine's settings of a session are those of the app. -/
structure Mirrors (st : TsConnectionState) (c : TsConnection) : Prop where
  vadEnabled : c.vadEnabled = (st.vadEnabled && !st.pttMode)
  vadThreshold : c.vadThreshold = clampThreshold st.vadThreshold
  micGain : c.micGain = clampGain st.micGain
  whisperActive : c.whisperActive = st.whisperActive
  clients : c.whisperTargetClients = sanitizeClients st.whisperTargetClientIds c.ownClientId
  channels : c.whisperTargetChannels = sanitizeChannels st.whisperTargetChannelIds
  allowMode : c.whisperAllowMode = st.whisperAllowlistEnabled
  allowed : ∀ uid, uid ∈ c.whisperAllowedUids ↔ uid ∈ st.whisperAllowedUids ∧ uid ≠ ""

/-- The same while a session has not been told everything. -/
structure Tuned (told : Told) (st : TsConnectionState) (c : TsConnection) : Prop where
  vadEnabled : told.vad = true → c.vadEnabled = (st.vadEnabled && !st.pttMode)
  vadThreshold : told.threshold = true → c.vadThreshold = clampThreshold st.vadThreshold
  micGain : c.micGain = clampGain st.micGain
  whisperActive : c.whisperActive = st.whisperActive
  clients : c.whisperTargetClients = sanitizeClients st.whisperTargetClientIds c.ownClientId
  channels : c.whisperTargetChannels = sanitizeChannels st.whisperTargetChannelIds
  allowMode : c.whisperAllowMode = st.whisperAllowlistEnabled
  allowed : ∀ uid, uid ∈ c.whisperAllowedUids ↔ uid ∈ st.whisperAllowedUids ∧ uid ≠ ""
  readable : readable st.whisperTargetClientIds st.whisperTargetChannelIds = true

structure InTune (k : Tracked) : Prop where
  tuned : ∀ cid told c, k.told cid = some told → k.app.engine.sessions cid = some c →
    Tuned told (k.app.stateOf cid) c
  connected : ∀ cid, (k.app.stateOf cid).connected = true → k.told cid = some ⟨true, true⟩

theorem Tuned.mirrors {st : TsConnectionState} {c : TsConnection}
    (tuned : Tuned ⟨true, true⟩ st c) : Mirrors st c :=
  ⟨tuned.vadEnabled rfl, tuned.vadThreshold rfl, tuned.micGain, tuned.whisperActive,
    tuned.clients, tuned.channels, tuned.allowMode, tuned.allowed⟩

def settings (st : TsConnectionState) :
    Bool × Bool × ℚ × ℚ × Bool × List Int × List Int × Bool × List String :=
  (st.vadEnabled, st.pttMode, st.vadThreshold, st.micGain, st.whisperActive,
    st.whisperTargetClientIds, st.whisperTargetChannelIds, st.whisperAllowlistEnabled,
    st.whisperAllowedUids)

def liveSettings (st : TsConnectionState) := (st.connected, settings st)

def engineSettings (c : TsConnection) :
    Nat × Bool × ℚ × ℚ × Bool × List Int × List Int × Bool × List String :=
  (c.ownClientId, c.vadEnabled, c.vadThreshold, c.micGain, c.whisperActive,
    c.whisperTargetClients, c.whisperTargetChannels, c.whisperAllowMode, c.whisperAllowedUids)

theorem deaf_engineSettings : Deaf engineSettings where
  encoder _ _ := rfl
  muted c input output := by
    simp only [setMuted]
    split <;> rfl

theorem tuned_congr {told : Told} {st other : TsConnectionState} {c d : TsConnection}
    (same : settings other = settings st) (engine : engineSettings d = engineSettings c)
    (tuned : Tuned told st c) : Tuned told other d := by
  simp only [settings, engineSettings, Prod.mk.injEq] at same engine
  obtain ⟨vad, ptt, threshold, gain, active, clients, channels, mode, uids⟩ := same
  obtain ⟨own, vad', threshold', gain', active', clients', channels', mode', uids'⟩ := engine
  constructor
  · rw [vad', vad, ptt]
    exact tuned.vadEnabled
  · rw [threshold', threshold]
    exact tuned.vadThreshold
  · rw [gain', gain, tuned.micGain]
  · rw [active', active, tuned.whisperActive]
  · rw [clients', clients, own, tuned.clients]
  · rw [channels', channels, tuned.channels]
  · rw [mode', mode, tuned.allowMode]
  · rw [uids', uids]
    exact tuned.allowed
  · rw [clients, channels, tuned.readable]

/-- A step that sets nothing and connects no session but one that has been told
everything. -/
theorem inTune_quiet {s t : VoiceApp} {told : ConnectionId → Option Told}
    (inTune : InTune ⟨s, told⟩) (keeps : Keeps settings s t)
    (engine : EngineKeeps engineSettings s t)
    (live : ∀ cid, (t.stateOf cid).connected = true →
      (s.stateOf cid).connected = true ∨ told cid = some ⟨true, true⟩) :
    InTune ⟨t, told⟩ := by
  constructor
  · intro cid known d tracked found
    have same := engine cid
    rw [found, Option.map_some] at same
    obtain ⟨c, before, view⟩ := Option.map_eq_some_iff.mp same.symm
    exact tuned_congr (keeps cid) view.symm (inTune.tuned cid known c tracked before)
  · intro cid connected
    exact (live cid connected).elim (inTune.connected cid) id

theorem inTune_keeps {s t : VoiceApp} {told : ConnectionId → Option Told}
    (inTune : InTune ⟨s, told⟩) (keeps : Keeps liveSettings s t)
    (engine : EngineKeeps engineSettings s t) : InTune ⟨t, told⟩ :=
  inTune_quiet inTune (fun cid => (Prod.mk.inj (keeps cid)).2) engine
    fun cid connected => .inl ((Prod.mk.inj (keeps cid)).1 ▸ connected)

theorem tell_id {told : ConnectionId → Option Told} {cid : ConnectionId} :
    Tracked.tell told cid id = told := by
  simp [Tracked.tell]

/-- A call that sets something in app and engine and notes it. -/
theorem inTune_set {s : VoiceApp} {told : ConnectionId → Option Told} {cid : ConnectionId}
    {next : TsConnectionState} {engine : VoiceEngine} {change : TsConnection → TsConnection}
    {note : Told → Told} (inTune : InTune ⟨s, told⟩)
    (set : engine = s.engine.modify cid change) (live : next.connected = (s.stateOf cid).connected)
    (full : note ⟨true, true⟩ = ⟨true, true⟩)
    (tuned : ∀ known c, told cid = some known → s.engine.sessions cid = some c →
      Tuned known (s.stateOf cid) c → Tuned (note known) next (change c)) :
    InTune ⟨({ s with engine := engine }).setSession cid next, Tracked.tell told cid note⟩ := by
  subst set
  constructor
  · intro queried known d tracked found
    simp only [setSession_engine, VoiceEngine.modify] at found
    simp only [Tracked.tell] at tracked
    rw [stateOf_setSession]
    by_cases here : queried = cid
    · subst here
      rw [Function.update_self, Option.map_eq_some_iff] at tracked found
      obtain ⟨before, wasTold, rfl⟩ := tracked
      obtain ⟨c, was, rfl⟩ := found
      rw [if_pos rfl]
      exact tuned before c wasTold was (inTune.tuned queried before c wasTold was)
    · rw [Function.update_of_ne here] at tracked found
      rw [if_neg here]
      exact inTune.tuned queried known d tracked found
  · intro queried connected
    rw [stateOf_setSession] at connected
    simp only [Tracked.tell]
    by_cases here : queried = cid
    · subst here
      rw [if_pos rfl, live] at connected
      have before : told queried = some ⟨true, true⟩ := inTune.connected queried connected
      rw [Function.update_self, before, Option.map_some, full]
    · rw [if_neg here] at connected
      rw [Function.update_of_ne here]
      exact inTune.connected queried connected

theorem mem_sortedIds {ids : List Int} {id : Int} : id ∈ sortedIds ids ↔ id ∈ ids := by
  simp [sortedIds]

theorem readable_iff {clientIds channelIds : List Int} :
    readable clientIds channelIds = true ↔
      (∀ id ∈ clientIds, 0 ≤ id ∧ id < 2 ^ 32) ∧ ∀ id ∈ channelIds, 0 ≤ id ∧ id < 2 ^ 64 := by
  simp [readable]

/-- The lists that the app makes of readable ones are readable. -/
theorem readable_sorted {clientIds channelIds : List Int} {p : Int → Bool}
    (given : readable clientIds channelIds = true) :
    readable (sortedIds (clientIds.filter p)) (sortedIds channelIds) = true := by
  rw [readable_iff] at given ⊢
  simp only [mem_sortedIds, List.mem_filter]
  exact ⟨fun id held => given.1 id held.1, given.2⟩

theorem readable_filter {clientIds channelIds : List Int} {p q : Int → Bool}
    (given : readable clientIds channelIds = true) :
    readable (clientIds.filter p) (channelIds.filter q) = true := by
  rw [readable_iff] at given ⊢
  simp only [List.mem_filter]
  exact ⟨fun id held => given.1 id held.1, fun id held => given.2 id held.1⟩

/-- A call that sets something else in app and engine. -/
theorem inTune_update {s : VoiceApp} {told : ConnectionId → Option Told} {cid : ConnectionId}
    {next : TsConnectionState} {engine : VoiceEngine} {change : TsConnection → TsConnection}
    (inTune : InTune ⟨s, told⟩) (set : engine = s.engine.modify cid change)
    (live : next.connected = (s.stateOf cid).connected)
    (tuned : ∀ known c, told cid = some known → s.engine.sessions cid = some c →
      Tuned known (s.stateOf cid) c → Tuned known next (change c)) :
    InTune ⟨({ s with engine := engine }).setSession cid next, told⟩ := by
  have noted : InTune ⟨({ s with engine := engine }).setSession cid next,
      Tracked.tell told cid id⟩ :=
    inTune_set inTune set live rfl tuned
  rwa [tell_id] at noted

/-- The engine sanitizes the same lists that the app keeps. -/
theorem tuned_targets {known : Told} {st : TsConnectionState} {c : TsConnection}
    {clients channels : List Int} {active : Bool} (tuned : Tuned known st c)
    (given : readable clients channels = true) (armed : c.whisperActive = active) :
    Tuned known
      { st.copy with
        whisperTargetClientIds := clients
        whisperTargetChannelIds := channels
        whisperActive := active }
      (c.setWhisperTargets clients channels) := by
  simp only [TsConnection.setWhisperTargets, given, if_true]
  exact { tuned with whisperActive := armed, clients := rfl, channels := rfl, readable := given }

/-- A call that changes the engine only. -/
theorem inTune_engine {s : VoiceApp} {told : ConnectionId → Option Told} {cid : ConnectionId}
    {change : TsConnection → TsConnection} (inTune : InTune ⟨s, told⟩)
    (tuned : ∀ known c, told cid = some known → s.engine.sessions cid = some c →
      Tuned known (s.stateOf cid) c → Tuned known (s.stateOf cid) (change c)) :
    InTune ⟨{ s with engine := s.engine.modify cid change }, told⟩ := by
  refine ⟨fun queried known d tracked found => ?_, inTune.connected⟩
  simp only [VoiceEngine.modify] at found
  by_cases here : queried = cid
  · subst here
    rw [Function.update_self, Option.map_eq_some_iff] at found
    obtain ⟨c, was, rfl⟩ := found
    exact tuned known c tracked was (inTune.tuned queried known c tracked was)
  · rw [Function.update_of_ne here] at found
    exact inTune.tuned queried known d tracked found

section Setters

variable {s : VoiceApp} {told : ConnectionId → Option Told} {cid : ConnectionId}
  (inTune : InTune ⟨s, told⟩)

include inTune

theorem inTune_setMicGain (gain : ℚ) : InTune ⟨s.setMicGain cid gain, told⟩ :=
  inTune_update inTune rfl rfl fun _ _ _ _ tuned => { tuned with micGain := rfl }

theorem inTune_setVadThreshold (threshold : ℚ) :
    InTune ⟨s.setVadThreshold cid threshold,
      Tracked.tell told cid fun told => { told with threshold := true }⟩ :=
  inTune_set inTune rfl rfl rfl
    fun _ _ _ _ tuned => { tuned with vadThreshold := fun _ => rfl }

theorem inTune_setVadEnabled (enabled : Bool)
    (gate : (!(enabled && (s.stateOf cid).pttMode)) = true) :
    InTune ⟨s.setVadEnabled cid enabled,
      Tracked.tell told cid fun told => { told with vad := true }⟩ := by
  refine inTune_set inTune rfl rfl rfl
    fun _ _ _ _ tuned => { tuned with vadEnabled := fun _ => ?_ }
  show enabled = (enabled && !(s.stateOf cid).pttMode)
  cases enabled with
  | false => rfl
  | true => simpa using gate

theorem inTune_togglePttMode
    (gate : ((s.stateOf cid).vadEnabled || !(s.stateOf cid).pttMode) = true) :
    InTune ⟨s.togglePttMode cid, Tracked.tell told cid fun told =>
      ⟨true, told.threshold || (s.stateOf cid).pttMode⟩⟩ := by
  refine inTune_keeps ?_ keeps_updateMicState
    (engineKeeps_updateMicState deaf_engineSettings.toEncoderBlind)
  cases ptt : (s.stateOf cid).pttMode with
  | false =>
    refine inTune_set inTune rfl rfl rfl fun _ _ _ _ tuned =>
      { tuned with vadEnabled := fun _ => ?_, vadThreshold := fun toldThreshold => ?_ }
    · simp
    · rw [Bool.or_false] at toldThreshold
      exact tuned.vadThreshold toldThreshold
  | true =>
    rw [ptt, Bool.not_true, Bool.or_false] at gate
    refine inTune_set (s := s) inTune (VoiceEngine.modify_modify ..) rfl rfl fun _ _ _ _ tuned =>
      { tuned with vadEnabled := fun _ => ?_, vadThreshold := fun _ => rfl }
    simp [TsConnectionState.copy, gate]

theorem inTune_setWhisperAllowlistEnabled (enabled : Bool) :
    InTune ⟨s.setWhisperAllowlistEnabled cid enabled, told⟩ :=
  inTune_update inTune rfl rfl fun _ _ _ _ tuned => { tuned with allowMode := rfl }

theorem inTune_toggleWhisperAllowedUid (uid : String) :
    InTune ⟨s.toggleWhisperAllowedUid cid uid, told⟩ := by
  simp only [toggleWhisperAllowedUid]
  split
  · exact inTune
  · exact inTune_update inTune rfl rfl
      fun _ _ _ _ tuned => { tuned with allowed := fun _ => by simp }

/-- The app clears its targets without telling the engine. -/
theorem inTune_applyWhisperPreferences (enabled : Bool) (uids : List String)
    (none_set : (!(s.stateOf cid).hasWhisperTargets && !(s.stateOf cid).whisperActive) = true) :
    InTune ⟨s.applyWhisperPreferences cid enabled uids, told⟩ := by
  simp only [TsConnectionState.hasWhisperTargets, Bool.not_or, Bool.not_not, Bool.and_eq_true,
    List.isEmpty_iff, Bool.not_eq_true'] at none_set
  obtain ⟨⟨clients, channels⟩, active⟩ := none_set
  exact inTune_update inTune (VoiceEngine.modify_modify ..) rfl fun _ _ _ _ tuned =>
    { tuned with
      whisperActive := tuned.whisperActive.trans active
      clients := tuned.clients.trans (by rw [clients]; rfl)
      channels := tuned.channels.trans (by rw [channels])
      allowMode := rfl
      allowed := fun _ => by simp
      readable := rfl }

theorem inTune_setWhisperTargets (clientIds channelIds : List Int)
    (given : ∀ known c, told cid = some known → s.engine.sessions cid = some c →
      readable clientIds channelIds = true) :
    InTune ⟨s.setWhisperTargets cid clientIds channelIds, told⟩ := by
  have taken (known : Told) (c : TsConnection) (tracked : told cid = some known)
      (found : s.engine.sessions cid = some c) :
      readable (sortedIds (clientIds.filter (· ≠ ((s.stateOf cid).ownClientId : Int))))
        (sortedIds channelIds) = true :=
    readable_sorted (given known c tracked found)
  simp only [VoiceApp.setWhisperTargets]
  split
  · -- The engine is disarmed with the last target.
    rename_i disarmed
    refine inTune_update (s := s) inTune (VoiceEngine.modify_modify ..) rfl ?_
    intro known c tracked found tuned
    have kept := tuned_targets tuned (taken known c tracked found) rfl
    rw [Bool.and_eq_true, Bool.not_eq_true'] at disarmed
    exact { kept with whisperActive := by rw [disarmed.1]; rfl }
  · rename_i armed
    refine inTune_update (s := s) inTune rfl rfl ?_
    intro known c tracked found tuned
    refine tuned_targets tuned (taken known c tracked found) (tuned.whisperActive.trans ?_)
    rw [Bool.and_eq_true, Bool.not_eq_true', not_and] at armed
    cases active : (s.stateOf cid).whisperActive with
    | false => rw [Bool.and_false]
    | true =>
      rw [Bool.and_true]
      exact (Bool.eq_false_or_eq_true _).elim Eq.symm fun none => absurd active (armed none)

theorem inTune_setWhisperActive (active : Bool)
    (armed : (!active || !(s.stateOf cid).whisperActive ||
      (s.engine.sessions cid).all (·.hasTarget)) = true) :
    InTune ⟨s.setWhisperActive cid active, told⟩ := by
  simp only [VoiceApp.setWhisperActive]
  split
  · exact inTune_keeps inTune (keeps_setSession rfl) .refl
  · split
    · -- The engine refuses and stays disarmed, as the app is.
      rename_i refused
      simp only [VoiceEngine.acceptsWhisperActive, Bool.and_eq_true, Bool.not_eq_true'] at refused
      obtain ⟨refused, rfl⟩ := refused
      refine inTune_engine inTune fun known c _ found tuned => ?_
      simp only [found, Option.any_some, Option.all_some, Bool.not_true, Bool.false_or,
        Bool.or_eq_true, Bool.not_eq_true'] at refused armed
      have off : (s.stateOf cid).whisperActive = false :=
        armed.resolve_right fun hit => Bool.false_ne_true (refused.symm.trans hit)
      exact { tuned with whisperActive := by simp [TsConnection.setWhisperActive, refused, off] }
    · rename_i accepted
      refine inTune_update (s := s) inTune rfl rfl fun known c _ found tuned =>
        { tuned with whisperActive := ?_ }
      simp only [VoiceEngine.acceptsWhisperActive, found, Option.any_some, Bool.and_eq_true,
        Bool.not_eq_true', not_and] at accepted
      cases active with
      | false => rfl
      | true => simpa [TsConnection.setWhisperActive] using accepted

end Setters

theorem tuned_new : Tuned ⟨false, false⟩ .new .new where
  vadEnabled told := nomatch told
  vadThreshold told := nomatch told
  micGain := by decide +kernel
  whisperActive := rfl
  clients := by decide +kernel
  channels := by decide +kernel
  allowMode := rfl
  allowed _ := by simp [TsConnection.new, TsConnectionState.new]
  readable := rfl

theorem inTune_openSession {s : VoiceApp} {told : ConnectionId → Option Told}
    (savedMicGain : Option ℚ) (inTune : InTune ⟨s, told⟩)
    (fresh : s.sessions.find s.engine.nextConnectionId = none) :
    InTune ⟨s.openSession savedMicGain,
      Function.update told s.engine.nextConnectionId (some ⟨false, false⟩)⟩ := by
  have unset : s.stateOf s.engine.nextConnectionId = .new := by simp [stateOf, fresh]
  have opened : InTune
      ⟨{ s with
          engine := s.engine.connect
          rt := s.rt.insert s.engine.nextConnectionId ⟨false⟩ },
        Function.update told s.engine.nextConnectionId (some ⟨false, false⟩)⟩ := by
    constructor
    · intro cid known c tracked found
      simp only [VoiceEngine.connect] at tracked found
      by_cases here : cid = s.engine.nextConnectionId
      · rw [here, Function.update_self, Option.some.injEq] at tracked found
        rw [here, ← tracked, ← found]
        exact unset ▸ tuned_new
      · rw [Function.update_of_ne here] at tracked found
        exact inTune.tuned cid known c tracked found
    · intro cid connected
      by_cases here : cid = s.engine.nextConnectionId
      · have offline : (s.stateOf cid).connected = false := by rw [here, unset]; rfl
        exact absurd connected (by rw [Bool.not_eq_true]; exact offline)
      · exact (Function.update_of_ne here ..).trans (inTune.connected cid connected)
  cases savedMicGain with
  | none => exact inTune_keeps opened (keeps_setSession rfl) .refl
  | some gain => exact inTune_keeps (inTune_setMicGain opened gain) (keeps_setSession rfl) .refl

/-- A session that the app gives up is tracked no longer. -/
theorem inTune_forget {s t : VoiceApp} {told : ConnectionId → Option Told} {cid : ConnectionId}
    (inTune : InTune ⟨s, told⟩) (engine : EngineKeeps engineSettings s t)
    (offline : (t.stateOf cid).connected = false)
    (others : ∀ other, other ≠ cid → t.stateOf other = s.stateOf other) :
    InTune ⟨t, Function.update told cid none⟩ := by
  constructor
  · intro other known d tracked found
    have tracked : Function.update told cid none other = some known := tracked
    by_cases here : other = cid
    · rw [here, Function.update_self] at tracked
      cases tracked
    · rw [Function.update_of_ne here] at tracked
      have same := engine other
      rw [found, Option.map_some] at same
      obtain ⟨c, before, view⟩ := Option.map_eq_some_iff.mp same.symm
      exact tuned_congr (by rw [others other here]) view.symm
        (inTune.tuned other known c tracked before)
  · intro other connected
    by_cases here : other = cid
    · rw [here, offline] at connected
      cases connected
    · rw [others other here] at connected
      exact (Function.update_of_ne here ..).trans (inTune.connected other connected)

theorem inTune_cancelConnect {s : VoiceApp} {told : ConnectionId → Option Told}
    {cid : ConnectionId} (inTune : InTune ⟨s, told⟩) :
    InTune ⟨s.cancelConnect cid, Function.update told cid none⟩ := by
  refine inTune_forget inTune .refl ?_ fun other different => ?_
  · simp [stateOf, cancelConnect, TsConnectionState.new]
  · simp [stateOf, cancelConnect, different]

theorem inTune_handleConnected {s : VoiceApp} {told : ConnectionId → Option Told}
    {cid : ConnectionId} {data : ConnectedEvent} (inTune : InTune ⟨s, told⟩)
    (full : told cid = some ⟨true, true⟩) : InTune ⟨s.handleConnected cid data, told⟩ := by
  have connected : InTune ⟨s.setSession cid (connectedState (s.stateOf cid) data), told⟩ := by
    refine inTune_quiet inTune (keeps_setSession rfl) .refl fun queried live => ?_
    rw [stateOf_setSession] at live
    split at live
    · rename_i here
      exact .inr (here ▸ full)
    · exact .inl live
  have engine : EngineKeeps engineSettings s (s.handleConnected cid data) :=
    engineKeeps_handleConnected deaf_engineSettings.toEncoderBlind
  exact inTune_keeps connected (keeps_handleConnected (fun _ _ => rfl) fun _ => rfl)
    fun queried => engine queried

theorem inTune_handleDisconnected {s : VoiceApp} {told : ConnectionId → Option Told}
    {cid : ConnectionId} {expected : Bool} {reason : String} {retried : Bool}
    (inTune : InTune ⟨s, told⟩) :
    InTune ⟨s.handleDisconnected cid expected reason retried,
      if (s.rt.find cid).isSome && !(s.stateOf cid).connecting then
        Function.update told cid none
      else told⟩ := by
  have engine : EngineKeeps engineSettings s (s.handleDisconnected cid expected reason retried) :=
    engineKeeps_handleDisconnected deaf_engineSettings.toEncoderBlind
  simp only [handleDisconnected, stopAudioService_rt] at engine ⊢
  cases connecting : (s.stateOf cid).connecting with
  | true =>
    rw [Bool.not_true, Bool.and_false]
    exact inTune
  | false =>
    simp only [connecting, Bool.false_eq_true, if_false, Bool.not_false, Bool.and_true] at engine ⊢
    split
    · rename_i known
      simp only [known, if_true] at engine
      refine inTune_forget inTune engine ?_ fun other different => ?_
      · simp [disconnectedState, TsConnectionState.new]
      · rw [stateOf_setSession_of_ne _ _ _ _ different]
        simp [stateOf]
    · exact inTune_keeps inTune (keeps_of_sessions (stopAudioService_sessions s))
        (engineKeeps_stopAudioService deaf_engineSettings.toEncoderBlind)

theorem inTune_event {s : VoiceApp} {told : ConnectionId → Option Told} {cid : ConnectionId}
    {event : TsEngineEvent} (inTune : InTune ⟨s, told⟩)
    (calm : (⟨s, told⟩ : Tracked).inStep (.event cid event) = true) :
    InTune ⟨s.handleEvent cid event, (⟨s, told⟩ : Tracked).record (.event cid event)⟩ := by
  by_cases dropped : cid ≠ 0 ∧ s.rt.find cid = none
  · have same : (⟨s, told⟩ : Tracked).record (.event cid event) = told := by
      cases event <;> simp [Tracked.record, dropped.2]
    rw [handleEvent, if_pos dropped, same]
    exact inTune
  · rw [handleEvent, if_neg dropped]
    cases event with
    | connected data =>
      simp only [Tracked.inStep, Bool.or_eq_true, Bool.and_eq_true, decide_eq_true_eq,
        Option.isNone_iff_eq_none] at calm
      exact inTune_handleConnected inTune (calm.resolve_left dropped)
    | disconnected => exact inTune_handleDisconnected inTune
    | connectFailed kind message retried =>
      refine inTune_quiet inTune (keeps_setSession rfl) .refl fun queried live => .inl ?_
      simp only [VoiceApp.handleConnectFailed, stateOf_setSession] at live
      split at live
      · cases live
      · exact live
    | error message => exact inTune_keeps inTune (keeps_setSession rfl) .refl
    | clientJoined => exact inTune_keeps inTune (keeps_setSession rfl) .refl
    | clientLeft => exact inTune_keeps inTune (keeps_setSession rfl) .refl
    | channelsUpdated =>
      dsimp only
      split
      · exact inTune_keeps inTune (keeps_setSession rfl) .refl
      · exact inTune
    | other notice =>
      cases notice with
      | none => exact inTune
      | some notice => exact inTune_keeps inTune (keeps_setSession rfl) .refl

theorem inTune_pruneWhisperTargets {s : VoiceApp} {told : ConnectionId → Option Told}
    {cid : ConnectionId} (inTune : InTune ⟨s, told⟩) :
    InTune ⟨s.pruneWhisperTargets cid, told⟩ := by
  simp only [pruneWhisperTargets]
  repeat' split
  · exact inTune
  · exact inTune
  · exact inTune_setWhisperTargets inTune _ _ fun known c tracked found =>
      readable_filter (inTune.tuned cid known c tracked found).readable

theorem inTune_reconcileRoster {s : VoiceApp} {told : ConnectionId → Option Told}
    {cid : ConnectionId} {clients : List TsClient} (inTune : InTune ⟨s, told⟩) :
    InTune ⟨s.reconcileRoster cid clients, told⟩ := by
  simp only [reconcileRoster]
  split
  · exact inTune_pruneWhisperTargets (inTune_keeps inTune (keeps_setSession rfl) .refl)
  · exact inTune_pruneWhisperTargets inTune

theorem inTune_engineConnected {s : VoiceApp} {told : ConnectionId → Option Told}
    {cid : ConnectionId} {ownClientId : Nat} (inTune : InTune ⟨s, told⟩)
    (spared : ((s.engine.sessions cid).all
      fun c => Tracked.targetsSpare (s.stateOf cid) c ownClientId) = true) :
    InTune ⟨{ s with engine := s.engine.connected cid ownClientId }, told⟩ := by
  refine inTune_engine inTune fun known c _ found tuned =>
    { tuned with clients := tuned.clients.trans ?_ }
  simpa [found, Tracked.targetsSpare] using spared

theorem inTune_engineRemoved {s : VoiceApp} {told : ConnectionId → Option Told}
    {cid : ConnectionId} (inTune : InTune ⟨s, told⟩) :
    InTune ⟨{ s with engine := s.engine.remove cid }, told⟩ := by
  refine ⟨fun queried known c tracked found => ?_, inTune.connected⟩
  simp only [VoiceEngine.remove] at found
  by_cases here : queried = cid
  · rw [here, Function.update_self] at found
    cases found
  · rw [Function.update_of_ne here] at found
    exact inTune.tuned queried known c tracked found

theorem inTune_step {k after : Tracked} {action : Action} (inTune : InTune k)
    (calm : k.inStep action = true) (taken : k.step action = some after) : InTune after := by
  obtain ⟨s, told⟩ := k
  simp only [Tracked.step, Option.map_eq_some_iff] at taken
  obtain ⟨t, taken, rfl⟩ := taken
  have deaf := deaf_engineSettings
  cases action with
  | openSession savedMicGain =>
    cases taken
    exact inTune_openSession savedMicGain inTune (Option.isNone_iff_eq_none.mp calm)
  | cancelConnect => cases taken; exact inTune_cancelConnect inTune
  | event => cases taken; exact inTune_event inTune calm
  | reconcileRoster => cases taken; exact inTune_reconcileRoster inTune
  | setVadEnabled cid enabled => cases taken; exact inTune_setVadEnabled inTune enabled calm
  | setVadThreshold cid threshold => cases taken; exact inTune_setVadThreshold inTune threshold
  | togglePttMode => cases taken; exact inTune_togglePttMode inTune calm
  | setMicGain cid gain => cases taken; exact inTune_setMicGain inTune gain
  | applyWhisperPreferences cid enabled uids =>
    cases taken
    exact inTune_applyWhisperPreferences inTune enabled uids calm
  | setWhisperTargets cid clientIds channelIds =>
    cases taken
    exact inTune_setWhisperTargets inTune clientIds channelIds fun _ _ _ _ => calm
  | setWhisperActive cid active => cases taken; exact inTune_setWhisperActive inTune active calm
  | setWhisperAllowlistEnabled cid enabled =>
    cases taken
    exact inTune_setWhisperAllowlistEnabled inTune enabled
  | toggleWhisperAllowedUid cid uid =>
    cases taken
    exact inTune_toggleWhisperAllowedUid inTune uid
  | engineConnected => cases taken; exact inTune_engineConnected inTune calm
  | engineRemoved => cases taken; exact inTune_engineRemoved inTune
  | loadAudioPreferences =>
    cases taken
    exact inTune_keeps inTune (keeps_loadAudioPreferences fun _ => rfl)
      engineKeeps_loadAudioPreferences
  | loadHistoryPreferences =>
    cases taken
    exact inTune_keeps inTune (keeps_loadHistoryPreferences fun _ => rfl)
      engineKeeps_loadHistoryPreferences
  | resumeMuted =>
    cases taken
    exact inTune_keeps inTune (keeps_resumeMuted fun _ => rfl) engineKeeps_resumeMuted
  | selectSession cid =>
    cases taken
    refine inTune_keeps inTune keeps_selectSession (engineKeeps_of_engine ?_)
    rw [selectSession]
    split <;> rfl
  | disconnect =>
    cases taken
    exact inTune_keeps inTune (keeps_disconnect (fun _ => rfl) fun _ => rfl)
      (engineKeeps_disconnect deaf.toEncoderBlind)
  | retry => cases taken; exact inTune_keeps inTune (keeps_retry fun _ => rfl) .refl
  | toggleInputMute =>
    cases taken
    exact inTune_keeps inTune (keeps_toggleInputMute fun _ _ => rfl)
      (engineKeeps_toggleInputMute deaf)
  | setFullMute =>
    cases taken
    exact inTune_keeps inTune (keeps_setFullMute fun _ => rfl) (engineKeeps_setFullMute deaf)
  | setFullMuteAll =>
    cases taken
    exact inTune_keeps inTune (keeps_setFullMuteAll fun _ => rfl)
      (engineKeeps_setFullMuteAll deaf)
  | toggleOutputMute =>
    cases taken
    exact inTune_keeps inTune (keeps_toggleOutputMute fun _ _ => rfl)
      (engineKeeps_toggleOutputMute deaf)
  | setPttPressed =>
    cases taken
    exact inTune_keeps inTune (keeps_setPttPressed fun _ => rfl)
      (engineKeeps_setPttPressed deaf.toEncoderBlind)
  | onAudioFocusLost =>
    cases taken
    exact inTune_keeps inTune (keeps_onAudioFocusLost fun _ _ => rfl)
      (engineKeeps_onAudioFocusLost deaf)
  | onAudioFocusRegained =>
    cases taken
    exact inTune_keeps inTune (keeps_onAudioFocusRegained fun _ _ => rfl)
      (engineKeeps_onAudioFocusRegained deaf)
  | notificationMute =>
    cases taken
    exact inTune_keeps inTune (keeps_notificationMute fun _ _ => rfl)
      (engineKeeps_notificationMute deaf)
  | permissionAnswered =>
    exact inTune_keeps inTune (keeps_permissionAnswered taken) (engineKeeps_permissionAnswered taken)
  | orphanAnswered =>
    exact inTune_keeps inTune (keeps_orphanAnswered taken) (engineKeeps_orphanAnswered taken)
  | handleMicData =>
    cases taken
    exact inTune_keeps inTune keeps_handleMicData engineKeeps_handleMicData

/-- In every run whose steps keep app and engine in step, the engine mirrors the voice
settings of every connected session. -/
theorem engine_mirrors_settings (actions : List Action) (k : Tracked)
    (run : Run Tracked.step (fun k action => k.inStep action = true) .start actions k)
    (cid : ConnectionId) (c : TsConnection) (connected : (k.app.stateOf cid).connected = true)
    (found : k.app.engine.sessions cid = some c) : Mirrors (k.app.stateOf cid) c := by
  have initial : InTune .start :=
    { tuned := fun _ _ _ tracked => nomatch tracked
      connected := fun _ connected => nomatch connected }
  have inTune := run.invariant InTune initial fun _ _ _ before calm taken =>
    inTune_step before calm taken
  exact (inTune.tuned cid _ c (inTune.connected cid connected) found).mirrors

/-- The gate and its threshold are set while the session is still connecting. -/
def tunedHistory : List Action :=
  [.openSession none, .setVadEnabled 1 true, .setVadThreshold 1 (1 / 4), .engineConnected 1 5,
    .event 1 (.connected ⟨some 5, "", 0, [], [⟨5, 10, 0, false⟩, ⟨6, 10, 0, false⟩]⟩),
    .setMicGain 1 5, .setWhisperTargets 1 [6, 5, 6] [20], .setWhisperActive 1 true,
    .togglePttMode 1]

theorem tuned_session_mirrors :
    ∃ s : VoiceApp, ∃ c : TsConnection, s.engine.sessions 1 = some c ∧
      c.vadThreshold = 1 / 4 ∧ c.micGain = 3 ∧ c.whisperTargetClients = [6] ∧
      Mirrors (s.stateOf 1) c := by
  obtain ⟨k, run, tuned⟩ := reaches_of_guarded Tracked.inStep (show
    (exec (guarded Tracked.inStep Tracked.step) .start tunedHistory).any (fun k =>
      (k.app.stateOf 1).connected && (k.app.engine.sessions 1).any fun c =>
        c.vadThreshold == 1 / 4 && c.micGain == 3 && c.whisperTargetClients == [6]) = true by
    decide +kernel)
  simp only [Bool.and_eq_true, Option.any_eq_true, beq_iff_eq] at tuned
  obtain ⟨connected, c, found, ⟨threshold, gain⟩, clients⟩ := tuned
  exact ⟨k.app, c, found, threshold, gain, clients,
    engine_mirrors_settings tunedHistory k run 1 c connected found⟩

/-- The session connects with the defaults of both sides. -/
def defaultHistory : List Action :=
  [.openSession none, .engineConnected 1 5,
    .event 1 (.connected ⟨some 5, "", 0, [], [⟨5, 10, 0, false⟩]⟩)]

/-- The app shows the voice gate on, the engine does not gate. -/
theorem default_gate_differs :
    ∃ k c, Run Tracked.step anyStep .start defaultHistory k ∧
      (k.app.stateOf 1).connected = true ∧ k.app.engine.sessions 1 = some c ∧
      (k.app.stateOf 1).vadEnabled = true ∧ (k.app.stateOf 1).pttMode = false ∧
      c.vadEnabled = false ∧ ¬ Mirrors (k.app.stateOf 1) c := by
  obtain ⟨k, run, open_gate⟩ := reaches_of_exec anyStep (fun _ _ _ => trivial) (show
    (exec Tracked.step .start defaultHistory).any (fun k =>
      (k.app.stateOf 1).connected && (k.app.engine.sessions 1).any fun c =>
        (k.app.stateOf 1).vadEnabled && !(k.app.stateOf 1).pttMode && !c.vadEnabled) = true by
    decide +kernel)
  simp only [Bool.and_eq_true, Option.any_eq_true, Bool.not_eq_true'] at open_gate
  obtain ⟨connected, c, found, ⟨vad, ptt⟩, engine⟩ := open_gate
  refine ⟨k, c, run, connected, found, vad, ptt, engine, fun mirrors => ?_⟩
  have same := mirrors.vadEnabled
  rw [engine, vad, ptt] at same
  exact Bool.noConfusion same

end Nek0.Guarantees
