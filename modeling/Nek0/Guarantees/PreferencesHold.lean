import Nek0.Guarantees.WellFormedTabs
import Nek0.Library.Broadcast
import Nek0.Source.PreferenceEffects

/-!
# Preferences hold in every session

Each preference is a broadcast: the stored value is the source, and the sessions show copies of
it. A session that is opened, or reset after a loss, starts from the defaults, and the switch of
automatic reconnection reaches one session only. The preferences hold in every session as long as
each of these finds the stored value in place or a load of it pending.
-/

namespace Nek0.Guarantees

open Nek0.Library Nek0.Source Nek0.Source.Notifier Nek0.Source.PreferenceApp

variable {device : AudioEffectSupport} {p q : PreferenceApp}

/-- A session shows the stored preferences, the effects as far as the device supports them. -/
structure FollowsPreferences (device : AudioEffectSupport) (p : PreferenceApp)
    (cid : ConnectionId) : Prop where
  history : (p.shown cid).chatHistoryEnabled = p.stored.history
  retention : (p.shown cid).chatRetention = p.stored.retention
  effects : (p.shown cid).effects = p.stored.effects.supported device
  reconnect : (p.app.stateOf cid).autoReconnectEnabled = p.app.autoReconnectPref.getD true
  runtime : ∀ rt, p.app.rt.find cid = some rt →
    rt.autoReconnect = (p.app.stateOf cid).autoReconnectEnabled

def historyUpdate : PendingPreference → Option (Update Bool)
  | .history enabled => some (.apply enabled)
  | .historyLoad _ => some .load
  | _ => none

def retentionUpdate : PendingPreference → Option (Update HistoryRetention)
  | .retention retention => some (.apply retention)
  | .historyLoad _ => some .load
  | _ => none

def effectsUpdate : PendingPreference → Option (Update AudioEffects)
  | .audioRead _ => some .load
  | .audioApply _ _ effects => some (.apply effects)
  | .effects effects => some (.store effects)
  | _ => none

def reconnectUpdate : PendingPreference → Option (Update (Bool × Bool))
  | .reconnectLoad => some .load
  | _ => none

def historyOf (p : PreferenceApp) : Broadcast ConnectionId Bool where
  source := p.stored.history
  members := p.app.sessions.keys
  copy cid := (p.shown cid).chatHistoryEnabled
  pending := p.pending.filterMap historyUpdate

def retentionOf (p : PreferenceApp) : Broadcast ConnectionId HistoryRetention where
  source := p.stored.retention
  members := p.app.sessions.keys
  copy cid := (p.shown cid).chatRetention
  pending := p.pending.filterMap retentionUpdate

def effectsOf (device : AudioEffectSupport) (p : PreferenceApp) :
    Broadcast ConnectionId AudioEffects where
  source := p.stored.effects.supported device
  members := p.app.sessions.keys
  copy cid := (p.shown cid).effects
  pending := p.pending.filterMap effectsUpdate

/-- What is shown and what the runtime has, as far as there is one. -/
def flagPair (flags : Bool × Option Bool) : Bool × Bool := (flags.1, flags.2.getD flags.1)

def reconnectOf (p : PreferenceApp) : Broadcast ConnectionId (Bool × Bool) where
  source := (p.app.autoReconnectPref.getD true, p.app.autoReconnectPref.getD true)
  members := p.app.sessions.keys
  copy cid := flagPair (p.app.autoFlags cid)
  pending := p.pending.filterMap reconnectUpdate

/-- A record may show this. -/
def acceptsShown (device : AudioEffectSupport) (p : PreferenceApp) (shown : ShownPreferences) :
    Bool :=
  (historyOf p).Accepts shown.chatHistoryEnabled && (retentionOf p).Accepts shown.chatRetention &&
    (effectsOf device p).Accepts shown.effects

def acceptsFlags (p : PreferenceApp) (flags : Bool × Option Bool) : Bool :=
  (reconnectOf p).Accepts (flagPair flags)

/-- Writing the record of a session, whether it exists or not. -/
def acceptsRecord (device : AudioEffectSupport) (p : PreferenceApp) (cid : ConnectionId) : Bool :=
  acceptsShown device p (p.shown cid) && acceptsFlags p (p.app.autoFlags cid)

/-- The end of a load or a setter that is no longer pending. -/
def keepsWhenDone (device : AudioEffectSupport) (p : PreferenceApp) : PendingPreference → Bool
  | .history enabled => p.app.sessions.keys = [] || (historyOf p).Accepts enabled
  | .retention retention => p.app.sessions.keys = [] || (retentionOf p).Accepts retention
  | .audioApply _ _ effects => p.app.sessions.keys = [] || (effectsOf device p).Accepts effects
  | .reconnectLoad => p.app.sessions.keys.all fun cid =>
    (p.app.rt.find cid).isSome || acceptsFlags p (p.app.autoFlags cid)
  | _ => true

/-- What is written shows the stored preferences, or updates that will bring them are pending. -/
def keepsPreferences (device : AudioEffectSupport) (p : PreferenceApp) :
    PreferenceApp.Action → Bool
  | .table (.table (.completeConnect _ reply)) =>
    (reply.filter (· ≠ 0)).all fun cid =>
      acceptsShown device p (p.shown cid) && acceptsFlags p ((p.app.autoFlags cid).1, some true)
  | .table (.table (.disconnect cid)) => acceptsRecord device p cid
  | .table (.table (.event cid (.disconnected _) _)) =>
    !resets p.app cid || ((effectsOf device p).Accepts ShownPreferences.new.effects &&
      acceptsFlags p (true, (p.app.autoFlags cid).2))
  | .table (.table (.event cid _ _)) => cid ≠ 0 || acceptsRecord device p 0
  | .table (.table (.setAutoReconnect cid enabled)) =>
    (p.app.rt.find cid).isNone || p.app.sessions.keys.all fun other =>
      other = cid || flagPair (p.app.autoFlags other) = (enabled, enabled) ||
        .reconnectLoad ∈ p.pending
  | .table (.writeSession cid) => acceptsRecord device p cid
  | .setAudioEffects .. => p.prefsReady
  | .readAudio _ support => support = device
  | .finish pending => keepsWhenDone device { p with pending := p.pending.erase pending } pending
  | _ => true

/-- What holds as long as the steps meet the condition. -/
structure Promises (device : AudioEffectSupport) (p : PreferenceApp) : Prop where
  history : (historyOf p).Promised
  retention : (retentionOf p).Promised
  effects : (effectsOf device p).Promised
  reconnect : (reconnectOf p).Promised
  rooted : ∀ cid ∈ p.app.rt.keys, cid ∈ p.app.sessions.keys
  support : ∀ cid, (p.shown cid).effectSupport = .none ∨ (p.shown cid).effectSupport = device
  answered : ∀ call support effects, .audioApply call support effects ∈ p.pending →
    support = device
  chosen : ∀ effects, .effects effects ∈ p.pending →
    effects.supported device = effects ∧ p.prefsReady = true

/-- Records are kept or accepted, and no update is lost. -/
structure ShownExtends (device : AudioEffectSupport) (p q : PreferenceApp) : Prop where
  stored : q.stored = p.stored
  pending : ∀ begun ∈ p.pending, begun ∈ q.pending
  shown : ∀ cid ∈ q.app.sessions.keys,
    cid ∈ p.app.sessions.keys ∧ q.shown cid = p.shown cid ∨
      acceptsShown device p (q.shown cid) = true

/-- The flags of automatic reconnection are kept or accepted. -/
structure FlagsExtend (p q : PreferenceApp) : Prop where
  pref : q.app.autoReconnectPref = p.app.autoReconnectPref
  pending : ∀ begun ∈ p.pending, begun ∈ q.pending
  flags : ∀ cid ∈ q.app.sessions.keys,
    cid ∈ p.app.sessions.keys ∧ q.app.autoFlags cid = p.app.autoFlags cid ∨
      acceptsFlags p (q.app.autoFlags cid) = true

theorem mem_filterMap_of_mem {U : Type} {update : PendingPreference → Option U}
    (kept : ∀ begun ∈ p.pending, begun ∈ q.pending) :
    ∀ u ∈ p.pending.filterMap update, u ∈ q.pending.filterMap update := by
  intro u listed
  obtain ⟨begun, waits, updates⟩ := List.mem_filterMap.mp listed
  exact List.mem_filterMap.mpr ⟨begun, kept begun waits, updates⟩

/-- The rule for the three preferences that records show. -/
theorem ShownExtends.promised (extension : ShownExtends device p q)
    (promises : Promises device p) :
    (historyOf q).Promised ∧ (retentionOf q).Promised ∧ (effectsOf device q).Promised := by
  obtain ⟨stored, pending, shown⟩ := extension
  have accepted : ∀ cid ∈ q.app.sessions.keys,
      cid ∈ p.app.sessions.keys ∧ q.shown cid = p.shown cid ∨
        ((historyOf p).Accepts (q.shown cid).chatHistoryEnabled ∧
          (retentionOf p).Accepts (q.shown cid).chatRetention) ∧
        (effectsOf device p).Accepts (q.shown cid).effects := by
    simpa [acceptsShown] using shown
  refine ⟨promises.history.extend ?_ (mem_filterMap_of_mem pending) fun cid listed => ?_,
    promises.retention.extend ?_ (mem_filterMap_of_mem pending) fun cid listed => ?_,
    promises.effects.extend ?_ (mem_filterMap_of_mem pending) fun cid listed => ?_⟩
  · exact congrArg StoredPreferences.history stored
  · exact (accepted cid listed).imp
      (fun kept => ⟨kept.1, congrArg ShownPreferences.chatHistoryEnabled kept.2⟩) (·.1.1)
  · exact congrArg StoredPreferences.retention stored
  · exact (accepted cid listed).imp
      (fun kept => ⟨kept.1, congrArg ShownPreferences.chatRetention kept.2⟩) (·.1.2)
  · exact congrArg (fun stored => stored.effects.supported device) stored
  · exact (accepted cid listed).imp
      (fun kept => ⟨kept.1, congrArg ShownPreferences.effects kept.2⟩) (·.2)

theorem FlagsExtend.promised (extension : FlagsExtend p q) (promises : Promises device p) :
    (reconnectOf q).Promised := by
  obtain ⟨pref, pending, flags⟩ := extension
  refine promises.reconnect.extend ?_ (mem_filterMap_of_mem pending) fun cid listed => ?_
  · simp [reconnectOf, pref]
  · exact (flags cid listed).imp (fun kept => ⟨kept.1, congrArg flagPair kept.2⟩)
      fun accepts => of_decide_eq_true accepts

/-- A record that is there is accepted. -/
theorem Promises.acceptsShown (promises : Promises device p) {cid : ConnectionId}
    (listed : cid ∈ p.app.sessions.keys) : acceptsShown device p (p.shown cid) = true := by
  have history := promises.history.accepts listed
  have retention := promises.retention.accepts listed
  have effects := promises.effects.accepts listed
  simp only [Guarantees.acceptsShown, Bool.and_eq_true, decide_eq_true_eq]
  exact ⟨⟨history, retention⟩, effects⟩

/-- Something is begun. -/
theorem Promises.begins (promises : Promises device p) (begun : List PendingPreference)
    (answered : ∀ call support effects, .audioApply call support effects ∈ begun →
      support = device)
    (chosen : ∀ effects, .effects effects ∈ begun →
      effects.supported device = effects ∧ p.prefsReady = true) :
    Promises device { p with pending := p.pending ++ begun } := by
  have kept : ∀ earlier ∈ p.pending, earlier ∈ p.pending ++ begun :=
    fun _ => List.mem_append_left _
  have shown : ShownExtends device p { p with pending := p.pending ++ begun } :=
    ⟨rfl, kept, fun cid listed => .inl ⟨listed, rfl⟩⟩
  have flags : FlagsExtend p { p with pending := p.pending ++ begun } :=
    ⟨rfl, kept, fun cid listed => .inl ⟨listed, rfl⟩⟩
  obtain ⟨history, retention, effects⟩ := shown.promised promises
  have reconnect := flags.promised promises
  refine ⟨history, retention, effects, reconnect, promises.rooted, promises.support,
    fun call support effects listed => ?_, fun effects listed => ?_⟩
  · rcases List.mem_append.mp listed with earlier | new
    · exact promises.answered call support effects earlier
    · exact answered call support effects new
  · rcases List.mem_append.mp listed with earlier | new
    · exact promises.chosen effects earlier
    · exact chosen effects new

section Table

variable {t : Notifier} {cid : ConnectionId}

def Rooted (s : Notifier) : Prop := ∀ cid ∈ s.rt.keys, cid ∈ s.sessions.keys

/-- A step of the connection table that begins no load. -/
theorem Promises.table {shown : ConnectionId → ShownPreferences} (promises : Promises device p)
    (records : ∀ cid ∈ t.sessions.keys,
      cid ∈ p.app.sessions.keys ∧ shown cid = p.shown cid ∨
        Guarantees.acceptsShown device p (shown cid) = true)
    (reconnect : (reconnectOf { p with app := t }).Promised) (rooted : Rooted t)
    (support : ∀ cid, (shown cid).effectSupport = .none ∨ (shown cid).effectSupport = device) :
    Promises device { p with app := t, shown := shown } := by
  have extension : ShownExtends device p { p with app := t, shown := shown } :=
    ⟨rfl, fun _ => id, records⟩
  obtain ⟨history, retention, effects⟩ := extension.promised promises
  exact ⟨history, retention, effects, reconnect, rooted, support, promises.answered,
    promises.chosen⟩

/-- Records are at most made, and no flag changes. -/
theorem Promises.writes (promises : Promises device p) (same : SameFlags p.app t)
    (keys : ∀ cid ∈ t.sessions.keys,
      cid ∈ p.app.sessions.keys ∨ acceptsRecord device p cid = true) (rooted : Rooted t) :
    Promises device { p with app := t } := by
  have flags : FlagsExtend p { p with app := t } := by
    refine ⟨same.pref, fun _ => id, fun cid listed => ?_⟩
    rcases keys cid listed with before | accepted
    · exact .inl ⟨before, same.flags cid⟩
    · refine .inr ?_
      rw [same.flags cid]
      exact (Bool.and_eq_true_iff.mp accepted).2
  refine promises.table (fun cid listed => ?_) (flags.promised promises) rooted promises.support
  rcases keys cid listed with before | accepted
  · exact .inl ⟨before, rfl⟩
  · exact .inr (Bool.and_eq_true_iff.mp accepted).1

/-- The record of one session is written. -/
theorem Promises.wrote (promises : Promises device p) (same : SameFlags p.app t)
    (wrote : Wrote cid p.app t)
    (accepted : cid ∈ p.app.sessions.keys ∨ acceptsRecord device p cid = true) :
    Promises device { p with app := t } := by
  refine promises.writes same (fun queried listed => ?_) fun queried listed => ?_
  · rw [wrote.sessions, mem_listedWith] at listed
    rcases listed with before | rfl
    · exact .inl before
    · exact accepted
  · rw [wrote.sessions, mem_listedWith]
    exact .inl (promises.rooted queried (wrote.rt ▸ listed))

theorem Promises.kept (promises : Promises device p) (same : SameFlags p.app t)
    (kept : Kept p.app t) : Promises device { p with app := t } := by
  refine promises.writes same (fun queried listed => ?_) fun queried listed => ?_
  · exact .inl (kept.sessions ▸ listed)
  · rw [kept.sessions]
    exact promises.rooted queried (kept.rt ▸ listed)

/-- Only sessions with a runtime are written. -/
theorem Promises.tended (promises : Promises device p) (same : SameFlags p.app t)
    (tended : Tended p.app t) : Promises device { p with app := t } := by
  rcases tended with kept | ⟨cid, runtime, wrote⟩
  · exact promises.kept same kept
  · exact promises.wrote same wrote (.inl (promises.rooted cid runtime))

/-- Tended steps make no record and remove none. -/
def Within (keys : List ConnectionId) (s : Notifier) : Prop :=
  Rooted s ∧ ∀ cid ∈ s.sessions.keys, cid ∈ keys

theorem within_tended {keys : List ConnectionId} (s t : Notifier) (within : Within keys s)
    (tended : Tended s t) : Within keys t := by
  obtain ⟨rooted, listed⟩ := within
  rcases tended with kept | ⟨cid, runtime, wrote⟩
  · refine ⟨fun queried found => ?_, fun queried found => listed queried (kept.sessions ▸ found)⟩
    rw [kept.sessions]
    exact rooted queried (kept.rt ▸ found)
  · refine ⟨fun queried found => ?_, fun queried found => ?_⟩
    · rw [wrote.sessions, mem_listedWith]
      exact .inl (rooted queried (wrote.rt ▸ found))
    · rw [wrote.sessions, mem_listedWith] at found
      rcases found with before | rfl
      · exact listed queried before
      · exact listed queried (rooted queried runtime)

theorem Promises.network (promises : Promises device p) (status : NetworkStatus) :
    Promises device { p with app := p.app.onNetworkChanged status } := by
  have within : Within p.app.sessions.keys (p.app.onNetworkChanged status) :=
    tended_onNetworkChanged within_tended status ⟨promises.rooted, fun _ => id⟩
  exact promises.writes (sameFlags_onNetworkChanged ..)
    (fun cid listed => .inl (within.2 cid listed)) within.1

/-- A call that completes opens a session with the defaults. -/
theorem Promises.completeConnect (promises : Promises device p) (call : ConnectCall)
    (reply : Option ConnectionId)
    (accepted : keepsPreferences device p (.table (.table (.completeConnect call reply))) = true) :
    Promises device { p with app := p.app.completeConnect call reply } := by
  obtain ⟨pref, flags⟩ := flags_completeConnect p.app call reply
  cases opened : reply.filter (· ≠ 0) with
  | none =>
    have ended : p.app.completeConnect call reply =
        { p.app with inFlight := p.app.inFlight.erase call } := by
      simp only [Notifier.completeConnect, opened]
    rw [ended]
    exact promises.kept ⟨rfl, fun _ => rfl⟩ ⟨rfl, rfl, rfl, rfl⟩
  | some cid =>
    have keys : (p.app.completeConnect call reply).sessions.keys =
          listedWith cid p.app.sessions.keys ∧
        (p.app.completeConnect call reply).rt.keys = listedWith cid p.app.rt.keys := by
      simp only [Notifier.completeConnect, opened]
      exact ⟨rfl, rfl⟩
    simp only [keepsPreferences, opened, Option.all_some, Bool.and_eq_true] at accepted
    have reconnect : FlagsExtend p { p with app := p.app.completeConnect call reply } := by
      refine ⟨pref, fun _ => id, fun queried listed => ?_⟩
      rw [flags queried, opened]
      by_cases same : cid = queried
      · subst same
        rw [if_pos rfl]
        exact .inr accepted.2
      · rw [if_neg fun equal => same (Option.some.inj equal)]
        rw [keys.1, mem_listedWith] at listed
        exact .inl ⟨listed.resolve_right (Ne.symm same), rfl⟩
    refine promises.table (fun queried listed => ?_) (reconnect.promised promises)
      (fun queried listed => ?_) promises.support
    · rw [keys.1, mem_listedWith] at listed
      rcases listed with before | rfl
      · exact .inl ⟨before, rfl⟩
      · exact .inr accepted.1
    · rw [keys.2, mem_listedWith] at listed
      rw [keys.1, mem_listedWith]
      exact listed.imp_left (promises.rooted queried)

/-- Cancelling removes a session, and its record is the default again. -/
theorem Promises.cancelConnect (promises : Promises device p) (cid : ConnectionId) :
    Promises device { p with
      app := p.app.cancelConnect cid, shown := Function.update p.shown cid .new } := by
  have listed : ∀ queried ∈ (p.app.cancelConnect cid).sessions.keys,
      queried ∈ p.app.sessions.keys ∧ queried ≠ cid := by
    intro queried found
    obtain ⟨found, other⟩ := List.mem_filter.mp found
    exact ⟨found, by simpa using other⟩
  have flags : FlagsExtend p { p with app := p.app.cancelConnect cid } := by
    refine ⟨rfl, fun _ => id, fun queried found => .inl ⟨(listed queried found).1, ?_⟩⟩
    rw [flags_cancelConnect, if_neg (listed queried found).2]
  refine promises.table (fun queried found => ?_) (flags.promised promises)
    (fun queried found => ?_) fun queried => ?_
  · obtain ⟨before, other⟩ := listed queried found
    exact .inl ⟨before, Function.update_of_ne other ..⟩
  · obtain ⟨found, other⟩ := List.mem_filter.mp found
    exact List.mem_filter.mpr ⟨promises.rooted queried found, other⟩
  · rw [Function.update_apply]
    split
    · exact .inl rfl
    · exact promises.support queried

/-- A lost session keeps the chat preferences and starts again from the other defaults. -/
theorem Promises.resets (promises : Promises device p) (cid : ConnectionId) (expected : Bool)
    (env : Ambient) (resets : PreferenceApp.resets p.app cid = true)
    (effects : (effectsOf device p).Accepts ShownPreferences.new.effects)
    (flags : acceptsFlags p (true, (p.app.autoFlags cid).2) = true) :
    Promises device { p with
      app := p.app.handleDisconnected cid expected env
      shown := Function.update p.shown cid
        { ShownPreferences.new with
          chatHistoryEnabled := (p.shown cid).chatHistoryEnabled
          chatRetention := (p.shown cid).chatRetention } } := by
  obtain ⟨pref, after⟩ := flags_handleDisconnected p.app cid expected env resets
  have within : Within p.app.sessions.keys (p.app.handleDisconnected cid expected env) := by
    refine within_tended _ _ ⟨promises.rooted, fun _ => id⟩ ?_
    exact (handleDisconnected_writes p.app cid expected env).imp id
      fun wrote => ⟨cid, wrote.1, wrote.2⟩
  have keys := within.2
  have reconnect : FlagsExtend p { p with app := p.app.handleDisconnected cid expected env } := by
    refine ⟨pref, fun _ => id, fun queried listed => ?_⟩
    rw [after queried]
    split
    · next same => exact .inr (same ▸ flags)
    · exact .inl ⟨keys queried listed, rfl⟩
  refine promises.table (fun queried listed => ?_) (reconnect.promised promises) within.1
    fun queried => ?_
  · rw [Function.update_apply]
    split
    · next same =>
      subst same
      have history := promises.history.accepts (keys queried listed)
      have retention := promises.retention.accepts (keys queried listed)
      refine .inr ?_
      simp only [Guarantees.acceptsShown, Bool.and_eq_true, decide_eq_true_eq]
      exact ⟨⟨history, retention⟩, effects⟩
    · exact .inl ⟨keys queried listed, rfl⟩
  · rw [Function.update_apply]
    split
    · exact .inl rfl
    · exact promises.support queried

/-- The switch of automatic reconnection reaches one session. -/
theorem Promises.setAutoReconnect (promises : Promises device p) (cid : ConnectionId)
    (enabled : Bool)
    (accepted : keepsPreferences device p
      (.table (.table (.setAutoReconnect cid enabled))) = true) :
    Promises device { p with app := p.app.setAutoReconnect cid enabled } := by
  have within : Within p.app.sessions.keys (p.app.setAutoReconnect cid enabled) :=
    within_tended _ _ ⟨promises.rooted, fun _ => id⟩ (tended_setAutoReconnect ..)
  refine promises.table (fun queried listed => .inl ⟨within.2 queried listed, rfl⟩) ?_ within.1
    promises.support
  cases found : p.app.rt.find cid with
  | none =>
    have same : p.app.setAutoReconnect cid enabled = p.app := by
      simp [Notifier.setAutoReconnect, found]
    rw [same]
    exact promises.reconnect
  | some rt =>
    obtain ⟨pref, flags⟩ := flags_setAutoReconnect p.app cid enabled found
    simp only [keepsPreferences, found, Option.isNone_some, Bool.false_or, List.all_eq_true,
      Bool.or_eq_true, decide_eq_true_eq] at accepted
    by_cases loading : .reconnectLoad ∈ p.pending
    · exact .inr ⟨.load, List.mem_filterMap.mpr ⟨_, loading, rfl⟩, trivial⟩
    · refine .inl fun queried listed => ?_
      have shown : flagPair ((p.app.setAutoReconnect cid enabled).autoFlags queried) =
          (enabled, enabled) := by
        rw [flags queried]
        split
        · rfl
        · next other =>
          exact (((accepted queried (within.2 queried listed)).resolve_right loading).resolve_left
            other)
      simpa [reconnectOf, pref] using shown

/-- An event of a session, apart from its loss. -/
theorem Promises.handleEvent (promises : Promises device p) (cid : ConnectionId)
    (event : TsEngineEvent) (env : Ambient) (kept : ∀ expected, event ≠ .disconnected expected)
    (accepted : cid ≠ 0 ∨ acceptsRecord device p 0 = true) :
    Promises device { p with app := p.app.handleEvent cid event env } := by
  have same := sameFlags_handleEvent p.app cid event env kept
  rcases handleEvent_writes p.app cid event env with idle | wrote
  · exact promises.kept same idle
  by_cases zero : cid = 0
  · subst zero
    exact promises.wrote same wrote (.inr (accepted.resolve_left fun nonzero => nonzero rfl))
  by_cases removed : p.app.rt.find cid = none
  · have dropped : p.app.handleEvent cid event env = p.app := by
      unfold Notifier.handleEvent
      exact if_pos ⟨zero, removed⟩
    rw [dropped]
    exact promises
  · have runtime : cid ∈ p.app.rt.keys :=
      (p.app.rt.mem_keys cid).mpr (Option.isSome_iff_ne_none.mpr removed)
    exact promises.wrote same wrote (.inl (promises.rooted cid runtime))

theorem Promises.writeConnected (promises : Promises device p) (cid : ConnectionId) :
    Promises device { p with app := p.app.writeConnected cid } := by
  unfold Notifier.writeConnected
  split
  · next connected =>
    have listed : cid ∈ p.app.sessions.keys := by
      rw [p.app.sessions.mem_keys]
      cases found : p.app.sessions.find cid with
      | none => simp [stateOf, found, TsConnectionState.new] at connected
      | some _ => rfl
    exact promises.wrote (sameFlags_setSession p.app cid rfl) (wrote_setSession ..) (.inl listed)
  · exact promises

theorem Promises.selectSession (promises : Promises device p) (cid : ConnectionId) :
    Promises device { p with app := p.app.selectSession cid } := by
  unfold Notifier.selectSession
  split
  · exact promises.writes ⟨rfl, fun _ => rfl⟩ (fun _ => .inl) promises.rooted
  · exact promises

theorem Promises.disconnected (promises : Promises device p) (cid : ConnectionId)
    (expected : Bool) (env : Ambient)
    (met : keepsPreferences device p (.table (.table (.event cid (.disconnected expected) env))) =
      true) :
    Promises device { p with
      app := p.app.handleEvent cid (.disconnected expected) env
      shown := p.shownAfter (.table (.event cid (.disconnected expected) env)) } := by
  have handled : p.app.handleEvent cid (.disconnected expected) env =
      p.app.handleDisconnected cid expected env := by
    unfold Notifier.handleEvent
    split
    · next removed =>
      exact (handleDisconnected_stale p.app cid expected env
        (by simp [PreferenceApp.resets, removed.2])).symm
    · rfl
  rw [handled, shownAfter]
  simp only [keepsPreferences, Bool.or_eq_true, Bool.not_eq_true', Bool.and_eq_true,
    decide_eq_true_eq] at met
  by_cases lost : PreferenceApp.resets p.app cid = true
  · rw [if_pos lost]
    obtain ⟨effects, flags⟩ := met.resolve_left (by simp [lost])
    exact promises.resets cid expected env lost effects flags
  · rw [if_neg lost, handleDisconnected_stale p.app cid expected env (Bool.eq_false_iff.mpr lost)]
    exact promises

/-- The connection table as a whole, before its calls of `connect` begin to load. -/
theorem Promises.tabStep (promises : Promises device p) {action : TabAction}
    (other : action ≠ .table .loadReconnectPreference)
    (met : keepsPreferences device p (.table action) = true)
    (taken : p.app.tabStep action = some t) :
    Promises device { p with app := t, shown := p.shownAfter action } := by
  cases action with
  | table action =>
    cases action with
    | connect request =>
      obtain rfl := Option.some.inj taken
      exact promises.kept (sameFlags_connect ..) (kept_connect ..)
    | completeConnect call reply =>
      simp only [Notifier.tabStep, Notifier.step, Option.ite_none_right_eq_some,
        Option.some.injEq] at taken
      obtain ⟨-, rfl⟩ := taken
      exact promises.completeConnect call reply met
    | disconnect cid =>
      obtain rfl := Option.some.inj taken
      exact promises.wrote (sameFlags_disconnect ..) (wrote_disconnect ..) (.inr met)
    | cancelConnect cid =>
      obtain rfl := Option.some.inj taken
      exact promises.cancelConnect cid
    | retryNow cid =>
      obtain rfl := Option.some.inj taken
      exact promises.tended (sameFlags_retryNow ..) (tended_retryNow ..)
    | setAutoReconnect cid enabled =>
      obtain rfl := Option.some.inj taken
      exact promises.setAutoReconnect cid enabled met
    | loadReconnectPreference => exact absurd rfl other
    | timer cid =>
      simp only [Notifier.tabStep, Notifier.step] at taken
      split at taken
      · cases taken
      · next found =>
        obtain ⟨timer, -, rfl⟩ := Option.map_eq_some_iff.mp taken
        exact promises.tended (sameFlags_timerFired ..) (tended_timerFired p.app found timer)
    | network status =>
      obtain rfl := Option.some.inj taken
      exact promises.network status
    | event cid event env =>
      obtain rfl := Option.some.inj taken
      cases event with
      | disconnected expected => exact promises.disconnected cid expected env met
      | _ =>
        refine promises.handleEvent cid _ env (fun _ same => by cases same) ?_
        simpa [keepsPreferences] using met
  | selectSession cid =>
    obtain rfl := Option.some.inj taken
    exact promises.selectSession cid
  | closeSession cid =>
    obtain rfl := Option.some.inj taken
    exact promises.tended (sameFlags_closeSession ..) (tended_closeSession ..)
  | writeSession cid =>
    obtain rfl := Option.some.inj taken
    exact promises.wrote (sameFlags_setSession p.app cid rfl) (wrote_setSession ..) (.inr met)
  | writeConnected cid =>
    obtain rfl := Option.some.inj taken
    exact promises.writeConnected cid

end Table

theorem Promises.tableStep (promises : Promises device p) {action : TabAction}
    (other : action ≠ .table .loadReconnectPreference)
    (met : keepsPreferences device p (.table action) = true)
    (taken : p.tableStep action = some q) : Promises device q := by
  obtain ⟨t, moved, rfl⟩ := Option.map_eq_some_iff.mp taken
  refine (promises.tabStep other met moved).begins _ (fun call support effects listed => ?_)
    fun effects listed => ?_
  · obtain ⟨_, -, same⟩ := List.mem_map.mp listed
    cases same
  · obtain ⟨_, -, same⟩ := List.mem_map.mp listed
    cases same

section Setters

/-- Updates of other preferences stay pending. -/
theorem mem_filterMap_of_erase {U : Type} {update : PendingPreference → Option U}
    {done : PendingPreference} (skips : update done = none)
    (kept : ∀ begun ∈ p.pending.erase done, begun ∈ q.pending) :
    ∀ u ∈ p.pending.filterMap update, u ∈ q.pending.filterMap update := by
  intro u listed
  obtain ⟨begun, waits, updates⟩ := List.mem_filterMap.mp listed
  have different : begun ≠ done := by
    rintro rfl
    cases skips.symm.trans updates
  exact List.mem_filterMap.mpr
    ⟨begun, kept begun ((List.mem_erase_of_ne different).mpr waits), updates⟩

theorem Promises.setChatHistoryEnabled (promises : Promises device p) (enabled : Bool) :
    Promises device (p.setChatHistoryEnabled enabled) := by
  have kept : ∀ begun ∈ p.pending, begun ∈ (p.setChatHistoryEnabled enabled).pending :=
    fun _ => List.mem_append_left _
  have flags : FlagsExtend p (p.setChatHistoryEnabled enabled) :=
    ⟨rfl, kept, fun _ listed => .inl ⟨listed, rfl⟩⟩
  have begun : .history enabled ∈ (p.setChatHistoryEnabled enabled).pending :=
    List.mem_append_right _ (List.mem_singleton_self _)
  refine ⟨?_, ?_, ?_, flags.promised promises, promises.rooted, promises.support,
    fun call support effects listed => ?_, fun effects listed => ?_⟩
  · exact .inr ⟨.apply enabled, List.mem_filterMap.mpr ⟨_, begun, rfl⟩, rfl⟩
  · exact promises.retention.extend rfl (mem_filterMap_of_mem kept)
      fun _ listed => .inl ⟨listed, rfl⟩
  · exact promises.effects.extend rfl (mem_filterMap_of_mem kept)
      fun _ listed => .inl ⟨listed, rfl⟩
  · refine promises.answered call support effects ?_
    simpa [PreferenceApp.setChatHistoryEnabled] using listed
  · refine ⟨(promises.chosen effects ?_).1, rfl⟩
    simpa [PreferenceApp.setChatHistoryEnabled] using listed

theorem Promises.setChatRetention (promises : Promises device p) (retention : HistoryRetention) :
    Promises device (p.setChatRetention retention) := by
  have kept : ∀ begun ∈ p.pending, begun ∈ (p.setChatRetention retention).pending :=
    fun _ => List.mem_append_left _
  have flags : FlagsExtend p (p.setChatRetention retention) :=
    ⟨rfl, kept, fun _ listed => .inl ⟨listed, rfl⟩⟩
  have begun : .retention retention ∈ (p.setChatRetention retention).pending :=
    List.mem_append_right _ (List.mem_singleton_self _)
  refine ⟨?_, ?_, ?_, flags.promised promises, promises.rooted, promises.support,
    fun call support effects listed => ?_, fun effects listed => ?_⟩
  · exact promises.history.extend rfl (mem_filterMap_of_mem kept)
      fun _ listed => .inl ⟨listed, rfl⟩
  · refine .inr ⟨.apply retention, List.mem_filterMap.mpr ⟨_, begun, rfl⟩, ?_⟩
    exact (HistoryRetention.fromDays_days retention).symm
  · exact promises.effects.extend rfl (mem_filterMap_of_mem kept)
      fun _ listed => .inl ⟨listed, rfl⟩
  · refine promises.answered call support effects ?_
    simpa [PreferenceApp.setChatRetention] using listed
  · refine ⟨(promises.chosen effects ?_).1, rfl⟩
    simpa [PreferenceApp.setChatRetention] using listed

theorem supported_supported {effects : AudioEffects} {support : AudioEffectSupport}
    (known : support = .none ∨ support = device) :
    (effects.supported support).supported device = effects.supported support := by
  rcases known with rfl | rfl
  · simp [AudioEffects.supported, AudioEffectSupport.none]
  · simp [AudioEffects.supported]

theorem Promises.setAudioEffects (promises : Promises device p) (aec ns agc : Option Bool)
    (ready : p.prefsReady = true) :
    Promises device { p with pending := p.pending ++ [.effects (p.nextEffects aec ns agc)] } := by
  have known : p.selected.effectSupport = .none ∨ p.selected.effectSupport = device := by
    unfold selected
    split
    · exact .inl rfl
    · split
      · exact promises.support _
      · exact .inl rfl
  refine promises.begins _ (fun call support effects listed => ?_) fun effects listed => ?_
  · cases List.mem_singleton.mp listed
  · obtain rfl := PendingPreference.effects.inj (List.mem_singleton.mp listed)
    exact ⟨supported_supported known, ready⟩

/-- The audio preferences are read. -/
theorem Promises.readAudio (promises : Promises device p) (call : Option Nat) :
    Promises device (p.readAudio call device) := by
  have kept : ∀ begun ∈ p.pending.erase (.audioRead call),
      begun ∈ (p.readAudio call device).pending := fun _ => List.mem_append_left _
  have begun : .audioApply call device (p.stored.effects.supported device) ∈
      (p.readAudio call device).pending :=
    List.mem_append_right _ (List.mem_singleton_self _)
  refine ⟨?_, ?_, ?_, ?_, promises.rooted, promises.support,
    fun other support effects listed => ?_, fun effects listed => ?_⟩
  · exact promises.history.extend rfl (mem_filterMap_of_erase rfl kept)
      fun _ listed => .inl ⟨listed, rfl⟩
  · exact promises.retention.extend rfl (mem_filterMap_of_erase rfl kept)
      fun _ listed => .inl ⟨listed, rfl⟩
  · exact .inr ⟨.apply _, List.mem_filterMap.mpr ⟨_, begun, rfl⟩, rfl⟩
  · exact promises.reconnect.extend rfl (mem_filterMap_of_erase rfl kept)
      fun _ listed => .inl ⟨listed, rfl⟩
  · rcases List.mem_append.mp listed with earlier | new
    · exact promises.answered other support effects (List.mem_of_mem_erase earlier)
    · cases List.mem_singleton.mp new
      rfl
  · rcases List.mem_append.mp listed with earlier | new
    · exact ⟨(promises.chosen effects (List.mem_of_mem_erase earlier)).1, rfl⟩
    · cases List.mem_singleton.mp new

end Setters

section Finish

/-- What the change sets is in the records of all sessions. -/
theorem writeAll_sets (p : PreferenceApp) {V : Type} (part : ShownPreferences → V) {value : V}
    {change : ShownPreferences → ShownPreferences} (sets : ∀ s, part (change s) = value)
    {cid : ConnectionId} (listed : cid ∈ p.app.sessions.keys) :
    part ((p.writeAll change).shown cid) = value := by
  simp only [writeAll, if_pos listed]
  exact sets _

/-- What the change leaves alone stays in all records. -/
theorem writeAll_kept (p : PreferenceApp) {V : Type} (part : ShownPreferences → V)
    {change : ShownPreferences → ShownPreferences} (same : ∀ s, part (change s) = part s)
    (cid : ConnectionId) : part ((p.writeAll change).shown cid) = part (p.shown cid) := by
  simp only [writeAll]
  split
  · exact same _
  · rfl

/-- What the end of a load or a setter leaves as it was. -/
structure Leaves (p q : PreferenceApp) (done : PendingPreference) : Prop where
  sessions : ∀ cid ∈ q.app.sessions.keys, cid ∈ p.app.sessions.keys
  waits : ∀ begun ∈ p.pending.erase done, begun ∈ q.pending
  answered : ∀ call support effects, .audioApply call support effects ∈ q.pending →
    .audioApply call support effects ∈ p.pending
  chosen : ∀ effects, .effects effects ∈ q.pending → .effects effects ∈ p.pending
  ready : p.prefsReady = true → q.prefsReady = true

theorem Leaves.history {done : PendingPreference} (leaves : Leaves p q done)
    (promises : Promises device p) (skips : historyUpdate done = none)
    (stored : q.stored.history = p.stored.history)
    (same : ∀ cid, (q.shown cid).chatHistoryEnabled = (p.shown cid).chatHistoryEnabled) :
    (historyOf q).Promised :=
  promises.history.extend stored (mem_filterMap_of_erase skips leaves.waits)
    fun cid listed => .inl ⟨leaves.sessions cid listed, same cid⟩

theorem Leaves.retention {done : PendingPreference} (leaves : Leaves p q done)
    (promises : Promises device p) (skips : retentionUpdate done = none)
    (stored : q.stored.retention = p.stored.retention)
    (same : ∀ cid, (q.shown cid).chatRetention = (p.shown cid).chatRetention) :
    (retentionOf q).Promised :=
  promises.retention.extend stored (mem_filterMap_of_erase skips leaves.waits)
    fun cid listed => .inl ⟨leaves.sessions cid listed, same cid⟩

theorem Leaves.effects {done : PendingPreference} (leaves : Leaves p q done)
    (promises : Promises device p) (skips : effectsUpdate done = none)
    (stored : q.stored.effects = p.stored.effects)
    (same : ∀ cid, (q.shown cid).effects = (p.shown cid).effects) :
    (effectsOf device q).Promised :=
  promises.effects.extend (congrArg (·.supported device) stored)
    (mem_filterMap_of_erase skips leaves.waits)
    fun cid listed => .inl ⟨leaves.sessions cid listed, same cid⟩

theorem Leaves.reconnect {done : PendingPreference} (leaves : Leaves p q done)
    (promises : Promises device p) (skips : reconnectUpdate done = none) (same : q.app = p.app) :
    (reconnectOf q).Promised := by
  refine promises.reconnect.extend ?_ (mem_filterMap_of_erase skips leaves.waits)
    fun cid listed => .inl ⟨leaves.sessions cid listed, ?_⟩
  · simp [reconnectOf, same]
  · simp [reconnectOf, same]

/-- The three fields that do not depend on the preference. -/
theorem Leaves.promises {done : PendingPreference} (leaves : Leaves p q done)
    (promises : Promises device p) (history : (historyOf q).Promised)
    (retention : (retentionOf q).Promised) (effects : (effectsOf device q).Promised)
    (reconnect : (reconnectOf q).Promised) (rooted : Rooted q.app)
    (support : ∀ cid, (q.shown cid).effectSupport = .none ∨
      (q.shown cid).effectSupport = device) : Promises device q where
  history := history
  retention := retention
  effects := effects
  reconnect := reconnect
  rooted := rooted
  support := support
  answered call support effects listed :=
    promises.answered call support effects (leaves.answered call support effects listed)
  chosen effects listed :=
    (promises.chosen effects (leaves.chosen effects listed)).imp_right leaves.ready

/-- The state in which the end of a load or a setter is judged. -/
abbrev withoutPending (p : PreferenceApp) (done : PendingPreference) : PreferenceApp :=
  { p with pending := p.pending.erase done }

theorem leaves_writeAll (p : PreferenceApp) (done : PendingPreference)
    (change : ShownPreferences → ShownPreferences) :
    Leaves p ((withoutPending p done).writeAll change) done where
  sessions _ := id
  waits _ := id
  answered _ _ _ := List.mem_of_mem_erase
  chosen _ := List.mem_of_mem_erase
  ready := id

theorem Promises.support_writeAll (promises : Promises device p) {r : PreferenceApp}
    (shown : r.shown = p.shown) {change : ShownPreferences → ShownPreferences}
    (same : ∀ s, (change s).effectSupport = s.effectSupport) (cid : ConnectionId) :
    ((r.writeAll change).shown cid).effectSupport = .none ∨
      ((r.writeAll change).shown cid).effectSupport = device := by
  rw [writeAll_kept r ShownPreferences.effectSupport same cid, shown]
  exact promises.support cid

theorem Promises.finish_history (promises : Promises device p) (enabled : Bool)
    (met : keepsPreferences device p (.finish (.history enabled)) = true) :
    Promises device ((withoutPending p (.history enabled)).writeAll fun s =>
      { s with chatHistoryEnabled := enabled }) := by
  have leaves := leaves_writeAll p (.history enabled) fun s =>
    { s with chatHistoryEnabled := enabled }
  have right : p.app.sessions.keys = [] ∨
      (historyOf (withoutPending p (.history enabled))).Accepts enabled := by
    simpa [keepsPreferences, keepsWhenDone] using met
  refine leaves.promises promises ?_ ?_ ?_ ?_ promises.rooted
    (promises.support_writeAll (by rfl) fun _ => by rfl)
  · refine Broadcast.promised_of_done (fun cid listed => ?_) right
    exact writeAll_sets _ ShownPreferences.chatHistoryEnabled (fun _ => by rfl) listed
  · exact leaves.retention promises rfl rfl
      (writeAll_kept _ ShownPreferences.chatRetention fun _ => by rfl)
  · exact leaves.effects promises rfl rfl
      (writeAll_kept _ ShownPreferences.effects fun _ => by rfl)
  · exact leaves.reconnect promises rfl rfl

theorem Promises.finish_retention (promises : Promises device p) (retention : HistoryRetention)
    (met : keepsPreferences device p (.finish (.retention retention)) = true) :
    Promises device ((withoutPending p (.retention retention)).writeAll fun s =>
      { s with chatRetention := retention }) := by
  have leaves := leaves_writeAll p (.retention retention) fun s =>
    { s with chatRetention := retention }
  have right : p.app.sessions.keys = [] ∨
      (retentionOf (withoutPending p (.retention retention))).Accepts retention := by
    simpa [keepsPreferences, keepsWhenDone] using met
  refine leaves.promises promises ?_ ?_ ?_ ?_ promises.rooted
    (promises.support_writeAll (by rfl) fun _ => by rfl)
  · exact leaves.history promises rfl rfl
      (writeAll_kept _ ShownPreferences.chatHistoryEnabled fun _ => by rfl)
  · refine Broadcast.promised_of_done (fun cid listed => ?_) right
    exact writeAll_sets _ ShownPreferences.chatRetention (fun _ => by rfl) listed
  · exact leaves.effects promises rfl rfl
      (writeAll_kept _ ShownPreferences.effects fun _ => by rfl)
  · exact leaves.reconnect promises rfl rfl

/-- The effects were stored when they were shown. -/
theorem Promises.finish_effects (promises : Promises device p) (effects : AudioEffects)
    (waits : .effects effects ∈ p.pending) :
    Promises device
      ({ withoutPending p (.effects effects) with
        stored := if p.prefsReady then p.stored.setEffects effects else p.stored }.writeAll
          fun s => { s with effects := effects }) := by
  obtain ⟨supported, ready⟩ := promises.chosen effects waits
  have leaves : Leaves p ({ withoutPending p (.effects effects) with
      stored := p.stored.setEffects effects }.writeAll fun s => { s with effects := effects })
      (.effects effects) :=
    ⟨fun _ => id, fun _ => id, fun _ _ _ => List.mem_of_mem_erase, fun _ => List.mem_of_mem_erase,
      id⟩
  rw [if_pos ready]
  refine leaves.promises promises ?_ ?_ ?_ ?_ promises.rooted
    (promises.support_writeAll (by rfl) fun _ => by rfl)
  · exact leaves.history promises rfl rfl
      (writeAll_kept _ ShownPreferences.chatHistoryEnabled fun _ => by rfl)
  · exact leaves.retention promises rfl rfl
      (writeAll_kept _ ShownPreferences.chatRetention fun _ => by rfl)
  · refine Broadcast.promised_of_done (fun cid listed => ?_) (.inr (.inl supported.symm))
    exact writeAll_sets _ ShownPreferences.effects (fun _ => by rfl) listed
  · exact leaves.reconnect promises rfl rfl

theorem Promises.finish_historyLoad (promises : Promises device p) (call : Option Nat) :
    Promises device
      ({ withoutPending p (.historyLoad call) with prefsReady := true }.writeAll fun s =>
        { s with
          chatHistoryEnabled := p.stored.history
          chatRetention := p.stored.retention }) := by
  have leaves : Leaves p
      ({ withoutPending p (.historyLoad call) with prefsReady := true }.writeAll fun s =>
        { s with
          chatHistoryEnabled := p.stored.history
          chatRetention := p.stored.retention }) (.historyLoad call) :=
    ⟨fun _ => id, fun _ => id, fun _ _ _ => List.mem_of_mem_erase, fun _ => List.mem_of_mem_erase,
      fun _ => rfl⟩
  refine leaves.promises promises ?_ ?_ ?_ ?_ promises.rooted
    (promises.support_writeAll (by rfl) fun _ => by rfl)
  · refine Broadcast.promised_of_done (fun cid listed => ?_) (.inr (.inl rfl))
    exact writeAll_sets _ ShownPreferences.chatHistoryEnabled (fun _ => by rfl) listed
  · refine Broadcast.promised_of_done (fun cid listed => ?_) (.inr (.inl rfl))
    exact writeAll_sets _ ShownPreferences.chatRetention (fun _ => by rfl) listed
  · exact leaves.effects promises rfl rfl
      (writeAll_kept _ ShownPreferences.effects fun _ => by rfl)
  · exact leaves.reconnect promises rfl rfl

/-- The effects were applied. A call of `connect` goes on with the chat preferences. -/
theorem Promises.finish_audioApply (promises : Promises device p) (call : Option Nat)
    (support : AudioEffectSupport) (effects : AudioEffects)
    (waits : .audioApply call support effects ∈ p.pending)
    (met : keepsPreferences device p (.finish (.audioApply call support effects)) = true)
    {more : List PendingPreference} (loads : more = [] ∨ more = [.historyLoad call]) :
    Promises device
      ({ p with pending := p.pending.erase (.audioApply call support effects) ++ more }.writeAll
        fun s => { s with effectSupport := support, effects := effects }) := by
  obtain rfl := promises.answered call support effects waits
  have begun : ∀ x ∈ p.pending.erase (.audioApply call support effects) ++ more,
      x ∈ p.pending ∨ x = .historyLoad call := by
    intro x listed
    rcases List.mem_append.mp listed with earlier | new
    · exact .inl (List.mem_of_mem_erase earlier)
    · rcases loads with rfl | rfl
      · cases new
      · exact .inr (List.mem_singleton.mp new)
  have leaves : Leaves p
      ({ p with pending := p.pending.erase (.audioApply call support effects) ++ more }.writeAll
        fun s => { s with effectSupport := support, effects := effects })
      (.audioApply call support effects) :=
    ⟨fun _ => id, fun _ => List.mem_append_left _,
      fun _ _ _ listed => (begun _ listed).resolve_right (by simp),
      fun _ listed => (begun _ listed).resolve_right (by simp), id⟩
  have right : p.app.sessions.keys = [] ∨
      (effectsOf support
        (withoutPending p (.audioApply call support effects))).Accepts effects := by
    simpa [keepsPreferences, keepsWhenDone] using met
  refine leaves.promises promises ?_ ?_ ?_ ?_ promises.rooted fun cid => ?_
  · exact leaves.history promises rfl rfl
      (writeAll_kept _ ShownPreferences.chatHistoryEnabled fun _ => by rfl)
  · exact leaves.retention promises rfl rfl
      (writeAll_kept _ ShownPreferences.chatRetention fun _ => by rfl)
  · have kept : ∀ update ∈ (withoutPending p (.audioApply call support effects)).pending.filterMap
        effectsUpdate, update ∈ (p.pending.erase (.audioApply call support effects) ++
          more).filterMap effectsUpdate := by
      intro update listed
      rw [List.filterMap_append]
      exact List.mem_append_left _ listed
    have shows : ∀ cid ∈ p.app.sessions.keys, (({ p with
        pending := p.pending.erase (.audioApply call support effects) ++ more }.writeAll
          fun s => { s with effectSupport := support, effects := effects }).shown cid).effects =
        effects :=
      fun cid listed => writeAll_sets _ ShownPreferences.effects (fun _ => by rfl) listed
    exact Broadcast.promised_of_done shows (right.imp_right fun accepts => accepts.mono rfl kept)
  · exact leaves.reconnect promises rfl rfl
  · simp only [writeAll]
    split
    · exact .inr rfl
    · exact promises.support cid

/-- The load reaches the sessions with a runtime. -/
theorem Promises.finish_reconnectLoad (promises : Promises device p)
    (met : keepsPreferences device p (.finish .reconnectLoad) = true) :
    Promises device { withoutPending p .reconnectLoad with
      app := p.app.loadReconnectPreference, prefsReady := true } := by
  have within : Within p.app.sessions.keys p.app.loadReconnectPreference :=
    tended_loadReconnectPreference within_tended ⟨promises.rooted, fun _ => id⟩
  have loaded := loadedFlags_loadReconnectPreference p.app
  have leaves : Leaves p { withoutPending p .reconnectLoad with
      app := p.app.loadReconnectPreference, prefsReady := true } .reconnectLoad :=
    ⟨within.2, fun _ => id, fun _ _ _ => List.mem_of_mem_erase, fun _ => List.mem_of_mem_erase,
      fun _ => rfl⟩
  refine leaves.promises promises ?_ ?_ ?_ ?_ within.1 promises.support
  · exact leaves.history promises rfl rfl fun _ => rfl
  · exact leaves.retention promises rfl rfl fun _ => rfl
  · exact leaves.effects promises rfl rfl fun _ => rfl
  · by_cases coming : (reconnectOf (withoutPending p .reconnectLoad)).Coming
    · exact .inr (coming.mono (by simp [reconnectOf, loaded.pref]) fun _ => id)
    · refine .inl fun cid listed => ?_
      simp only [reconnectOf, loaded.pref, loaded.flags]
      split
      · rfl
      · next missed =>
        have known := within.2 cid listed
        simp only [keepsPreferences, keepsWhenDone, List.all_eq_true, Bool.or_eq_true] at met
        have accepted := (met cid known).resolve_left fun runtime => missed ⟨known, runtime⟩
        exact (of_decide_eq_true accepted).resolve_right coming

end Finish

theorem Promises.finish (promises : Promises device p) (done : PendingPreference)
    (waits : done ∈ p.pending) (met : keepsPreferences device p (.finish done) = true)
    (taken : (withoutPending p done).finish done = some q) : Promises device q := by
  cases done with
  | audioRead call => cases taken
  | audioApply call support effects =>
    obtain rfl := Option.some.inj taken
    cases call with
    | none =>
      have done := promises.finish_audioApply none support effects waits met (.inl rfl)
      rwa [List.append_nil] at done
    | some ticket =>
      exact promises.finish_audioApply (some ticket) support effects waits met (.inr rfl)
  | historyLoad call =>
    obtain rfl := Option.some.inj taken
    exact promises.finish_historyLoad call
  | reconnectLoad =>
    obtain rfl := Option.some.inj taken
    exact promises.finish_reconnectLoad met
  | history enabled =>
    obtain rfl := Option.some.inj taken
    exact promises.finish_history enabled met
  | retention retention =>
    obtain rfl := Option.some.inj taken
    exact promises.finish_retention retention met
  | effects effects =>
    obtain rfl := Option.some.inj taken
    exact promises.finish_effects effects waits

theorem promises_step {action : PreferenceApp.Action} (promises : Promises device p)
    (met : keepsPreferences device p action = true) (taken : p.step action = some q) :
    Promises device q := by
  cases action with
  | table action =>
    cases action with
    | table action =>
      cases action with
      | completeConnect call reply =>
        simp only [PreferenceApp.step, Option.ite_none_left_eq_some] at taken
        exact promises.tableStep (by simp) met taken.2
      | loadReconnectPreference => cases taken
      | _ => exact promises.tableStep (by simp) met taken
    | _ => exact promises.tableStep (by simp) met taken
  | loadHistoryPreferences =>
    obtain rfl := Option.some.inj taken
    exact promises.begins _ (by simp) (by simp)
  | loadAudioPreferences =>
    obtain rfl := Option.some.inj taken
    exact promises.begins _ (by simp) (by simp)
  | loadReconnectPreference =>
    obtain rfl := Option.some.inj taken
    exact promises.begins _ (by simp) (by simp)
  | setChatHistoryEnabled enabled =>
    obtain rfl := Option.some.inj taken
    exact promises.setChatHistoryEnabled enabled
  | setChatRetention retention =>
    obtain rfl := Option.some.inj taken
    exact promises.setChatRetention retention
  | setAudioEffects aec ns agc =>
    obtain rfl := Option.some.inj taken
    exact promises.setAudioEffects aec ns agc met
  | readAudio call support =>
    simp only [PreferenceApp.step, Option.ite_none_right_eq_some, Option.some.injEq] at taken
    obtain ⟨-, rfl⟩ := taken
    obtain rfl := of_decide_eq_true met
    exact promises.readAudio call
  | finish done =>
    simp only [PreferenceApp.step, Option.ite_none_right_eq_some] at taken
    exact promises.finish done taken.1 met taken.2

theorem promises_build (stored : StoredPreferences) (autoReconnect : Option Bool) :
    Promises device (.build stored autoReconnect) where
  history := .inl fun _ listed => by cases listed
  retention := .inl fun _ listed => by cases listed
  effects := .inl fun _ listed => by cases listed
  reconnect := .inl fun _ listed => by cases listed
  rooted _ listed := by cases listed
  support _ := .inl rfl
  answered _ _ _ listed := by cases listed
  chosen _ listed := by cases listed

/-- Broadcasts that agree are the preferences in every session. -/
theorem Promises.follows (promises : Promises device p) (idle : p.pending = [])
    {cid : ConnectionId} (listed : cid ∈ p.app.sessions.keys) :
    FollowsPreferences device p cid := by
  have history := promises.history.agrees (congrArg (List.filterMap historyUpdate) idle) cid listed
  have retention := promises.retention.agrees (congrArg (List.filterMap retentionUpdate) idle) cid
    listed
  have effects := promises.effects.agrees (congrArg (List.filterMap effectsUpdate) idle) cid listed
  have reconnect := promises.reconnect.agrees (congrArg (List.filterMap reconnectUpdate) idle) cid
    listed
  obtain ⟨shown, runtime⟩ := Prod.mk.inj reconnect
  refine ⟨history, retention, effects, shown, fun rt found => ?_⟩
  have flag : rt.autoReconnect = p.app.autoReconnectPref.getD true := by
    simpa [autoFlags, found] using runtime
  exact flag.trans shown.symm

/-- If every record that is made, reset or written alone finds the stored preferences in place or
their load pending, every session shows them as soon as nothing is pending. -/
theorem preferences_hold {stored : StoredPreferences} {autoReconnect : Option Bool}
    {actions : List PreferenceApp.Action}
    (run : Run PreferenceApp.step (fun p action => keepsPreferences device p action = true)
      (.build stored autoReconnect) actions p) (idle : p.pending = []) :
    ∀ cid ∈ p.app.sessions.keys, FollowsPreferences device p cid := by
  have promises : Promises device p := run.invariant _ (promises_build stored autoReconnect)
    fun _ _ _ before met taken => promises_step before met taken
  exact fun cid listed => promises.follows idle listed

def allEffects : AudioEffectSupport := ⟨true, true, true⟩

def freshPreferences : StoredPreferences := ⟨none, none, none, none, none⟩

/-- A call of the user with its loads. -/
def connects (ticket : Nat) : List PreferenceApp.Action :=
  [.table (.table (.connect tabRequest)), .readAudio (some ticket) allEffects,
    .finish (.audioApply (some ticket) allEffects ⟨true, true, false⟩),
    .finish (.historyLoad (some ticket))]

def opens (ticket : Nat) (cid : ConnectionId) : PreferenceApp.Action :=
  .table (.table (.completeConnect ⟨ticket, tabRequest, .user, ticket⟩ (some cid)))

/-- Chat history is switched on in the first session. -/
def historyOn : List PreferenceApp.Action :=
  connects 0 ++ [opens 0 1, .setChatHistoryEnabled true, .finish (.history true)]

/-- The second session is opened while the settings are loaded. -/
def loadedLate : List PreferenceApp.Action :=
  historyOn ++ connects 1 ++ [.loadHistoryPreferences, opens 1 2, .finish (.historyLoad none)]

theorem preferences_hold_loaded : ∃ p, p.pending = [] ∧ p.app.sessions.keys = [1, 2] ∧
    p.stored.history = true ∧
    ∀ cid ∈ p.app.sessions.keys, FollowsPreferences allEffects p cid := by
  obtain ⟨p, run, reached⟩ := reaches_of_guarded (keepsPreferences allEffects)
    (show (exec (guarded (keepsPreferences allEffects) PreferenceApp.step)
      (.build freshPreferences none) loadedLate).any (fun p =>
        p.pending == [] && p.app.sessions.keys == [1, 2] && p.stored.history) = true by
      decide +kernel)
  simp only [Bool.and_eq_true, beq_iff_eq] at reached
  obtain ⟨⟨idle, keys⟩, on⟩ := reached
  exact ⟨p, idle, keys, on, preferences_hold run idle⟩

/-- Without the settings being loaded, the second session records no history. -/
theorem preference_left_out : ¬ ∀ (device : AudioEffectSupport) (stored : StoredPreferences)
    (autoReconnect : Option Bool) (actions : List PreferenceApp.Action) (p : PreferenceApp),
    Run PreferenceApp.step anyStep (.build stored autoReconnect) actions p → p.pending = [] →
    ∀ cid ∈ p.app.sessions.keys, FollowsPreferences device p cid := by
  intro hold
  obtain ⟨p, run, reached⟩ := reaches_of_exec anyStep (fun _ _ _ => trivial)
    (show (exec PreferenceApp.step (.build freshPreferences none)
      (historyOn ++ connects 1 ++ [opens 1 2])).any (fun p =>
        p.pending == [] && p.app.sessions.keys == [1, 2] && p.stored.history &&
          !(p.shown 2).chatHistoryEnabled) = true by decide +kernel)
  simp only [Bool.and_eq_true, beq_iff_eq, Bool.not_eq_true'] at reached
  obtain ⟨⟨⟨idle, keys⟩, on⟩, off⟩ := reached
  have follows := hold allEffects _ _ _ p run idle 2 (by simp [keys])
  have shown := follows.history
  rw [off, on] at shown
  cases shown

end Nek0.Guarantees
