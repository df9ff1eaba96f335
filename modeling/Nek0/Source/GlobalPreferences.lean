import Nek0.Source.ChatThreads
import Nek0.Source.SessionTabs

/-!
# Global preferences

Chat history, its retention, the audio effects and automatic reconnection are stored once for the
app, and every session shows them. Loading and setting them waits for the platform on the way, so
that what was begun and not finished is a list of its own. `connect` loads the first three before
it reaches the engine. Of the stored values and of the records only these preferences are kept
here; `auto_reconnect` is part of the connection table.
-/

namespace Nek0.Source

open Library

structure AudioEffectSupport where
  aec : Bool
  ns : Bool
  agc : Bool
  deriving DecidableEq, Repr

def AudioEffectSupport.none : AudioEffectSupport := ⟨false, false, false⟩

/-- The switches `aecEnabled`, `nsEnabled` and `agcEnabled`. -/
structure AudioEffects where
  aec : Bool
  ns : Bool
  agc : Bool
  deriving DecidableEq, Repr

/-- What remains on a device. -/
def AudioEffects.supported (effects : AudioEffects) (support : AudioEffectSupport) :
    AudioEffects :=
  ⟨effects.aec && support.aec, effects.ns && support.ns, effects.agc && support.agc⟩

/-- Unknown numbers of days count as thirty. -/
def HistoryRetention.fromDays (days : Int) : HistoryRetention :=
  ([.sevenDays, .thirtyDays, .ninetyDays].find? fun value : HistoryRetention =>
    (value.days : Int) = days).getD .thirtyDays

@[simp] theorem HistoryRetention.fromDays_days (retention : HistoryRetention) :
    fromDays retention.days = retention := by
  cases retention <;> rfl

/-- What `SharedPreferences` holds of them. -/
structure StoredPreferences where
  chatHistoryEnabled : Option Bool
  chatHistoryRetentionDays : Option Int
  audioEffectAec : Option Bool
  audioEffectNs : Option Bool
  audioEffectAgc : Option Bool
  deriving DecidableEq, Repr

namespace StoredPreferences

def history (p : StoredPreferences) : Bool := p.chatHistoryEnabled.getD false

def retention (p : StoredPreferences) : HistoryRetention :=
  .fromDays (p.chatHistoryRetentionDays.getD HistoryRetention.thirtyDays.days)

def effects (p : StoredPreferences) : AudioEffects :=
  ⟨p.audioEffectAec.getD true, p.audioEffectNs.getD true, p.audioEffectAgc.getD false⟩

def setEffects (p : StoredPreferences) (effects : AudioEffects) : StoredPreferences :=
  { p with
    audioEffectAec := some effects.aec
    audioEffectNs := some effects.ns
    audioEffectAgc := some effects.agc }

@[simp] theorem effects_setEffects (p : StoredPreferences) (effects : AudioEffects) :
    (p.setEffects effects).effects = effects := rfl

end StoredPreferences

/-- What the record of a session shows of them. -/
structure ShownPreferences where
  chatHistoryEnabled : Bool
  chatRetention : HistoryRetention
  effects : AudioEffects
  effectSupport : AudioEffectSupport
  deriving DecidableEq, Repr

def ShownPreferences.new : ShownPreferences where
  chatHistoryEnabled := false
  chatRetention := .thirtyDays
  effects := ⟨true, true, false⟩
  effectSupport := .none

/-- A load or a setter that waits. A load that `connect` waits for has the ticket of the call. -/
inductive PendingPreference where
  /-- `loadAudioPreferences` has not read the stored effects yet. -/
  | audioRead (call : Option Nat)
  /-- It has read them and waits for the platform to apply them. -/
  | audioApply (call : Option Nat) (support : AudioEffectSupport) (effects : AudioEffects)
  | historyLoad (call : Option Nat)
  | reconnectLoad
  /-- `setChatHistoryEnabled` has stored its value. -/
  | history (enabled : Bool)
  /-- `setChatRetention` has stored its value. -/
  | retention (retention : HistoryRetention)
  /-- `setAudioEffects` has computed its values and stored nothing. -/
  | effects (effects : AudioEffects)
  deriving DecidableEq, Repr

def PendingPreference.call : PendingPreference → Option Nat
  | .audioRead call | .audioApply call _ _ | .historyLoad call => call
  | _ => none

structure PreferenceApp where
  app : Notifier
  stored : StoredPreferences
  /-- `_prefs` is no longer null. -/
  prefsReady : Bool
  shown : ConnectionId → ShownPreferences
  pending : List PendingPreference

namespace PreferenceApp

/-- The app after a start, with what earlier ones have stored. -/
def build (stored : StoredPreferences) (autoReconnect : Option Bool) : PreferenceApp where
  app := { Notifier.build with autoReconnectPref := autoReconnect }
  stored := stored
  prefsReady := false
  shown _ := .new
  pending := []

inductive Action where
  | table (action : Notifier.TabAction)
  | loadHistoryPreferences
  | loadAudioPreferences
  | loadReconnectPreference
  | setChatHistoryEnabled (enabled : Bool)
  | setChatRetention (retention : HistoryRetention)
  | setAudioEffects (aec ns agc : Option Bool)
  /-- The platform has said what the device supports. -/
  | readAudio (call : Option Nat) (support : AudioEffectSupport)
  | finish (pending : PendingPreference)

/-- Writes the record of every session. -/
def writeAll (p : PreferenceApp) (change : ShownPreferences → ShownPreferences) : PreferenceApp :=
  { p with
    shown := fun cid =>
      if cid ∈ p.app.sessions.keys then change (p.shown cid) else p.shown cid }

/-- A lost session gets a new record, except when the event is a stale one. -/
def resets (s : Notifier) (cid : ConnectionId) : Bool :=
  !(s.stateOf cid).connecting && (s.rt.find cid).isSome

/-- The records after a step of the connection table. -/
def shownAfter (p : PreferenceApp) : Notifier.TabAction → ConnectionId → ShownPreferences
  | .table (.cancelConnect cid) => Function.update p.shown cid .new
  | .table (.event cid (.disconnected _) _) =>
    if resets p.app cid then
      Function.update p.shown cid
        { ShownPreferences.new with
          chatHistoryEnabled := (p.shown cid).chatHistoryEnabled
          chatRetention := (p.shown cid).chatRetention }
    else p.shown
  | _ => p.shown

/-- A step of the connection table. Every new call of `connect` loads the audio preferences. -/
def tableStep (p : PreferenceApp) (action : Notifier.TabAction) : Option PreferenceApp :=
  (p.app.tabStep action).map fun app =>
    { p with
      app := app
      shown := p.shownAfter action
      pending := p.pending ++
        (app.connectCalls.drop p.app.connectCalls.length).map fun call =>
          .audioRead (some call.ticket) }

def waitsForLoads (p : PreferenceApp) (call : ConnectCall) : Bool :=
  p.pending.any fun pending => pending.call = some call.ticket

def selected (p : PreferenceApp) : ShownPreferences :=
  match p.app.selectedId with
  | none => .new
  | some cid => if cid ∈ p.app.sessions.keys then p.shown cid else .new

def setChatHistoryEnabled (p : PreferenceApp) (enabled : Bool) : PreferenceApp :=
  { p with
    stored := { p.stored with chatHistoryEnabled := some enabled }
    prefsReady := true
    pending := p.pending ++ [.history enabled] }

def setChatRetention (p : PreferenceApp) (retention : HistoryRetention) : PreferenceApp :=
  { p with
    stored := { p.stored with chatHistoryRetentionDays := some retention.days }
    prefsReady := true
    pending := p.pending ++ [.retention retention] }

/-- What `setAudioEffects` will store and show. -/
def nextEffects (p : PreferenceApp) (aec ns agc : Option Bool) : AudioEffects :=
  let effects := p.selected.effects
  AudioEffects.supported ⟨aec.getD effects.aec, ns.getD effects.ns, agc.getD effects.agc⟩
    p.selected.effectSupport

def readAudio (p : PreferenceApp) (call : Option Nat) (support : AudioEffectSupport) :
    PreferenceApp :=
  { p with
    prefsReady := true
    pending := p.pending.erase (.audioRead call) ++
      [.audioApply call support (p.stored.effects.supported support)] }

/-- The end of a load or a setter. -/
def finish (p : PreferenceApp) : PendingPreference → Option PreferenceApp
  | .audioRead _ => none
  | .audioApply call support effects =>
    let next : PreferenceApp :=
      { p with pending := if call.isSome then p.pending ++ [.historyLoad call] else p.pending }
    some (next.writeAll fun s => { s with effectSupport := support, effects := effects })
  | .historyLoad _ =>
    some ({ p with prefsReady := true }.writeAll fun s =>
      { s with chatHistoryEnabled := p.stored.history, chatRetention := p.stored.retention })
  | .reconnectLoad => some { p with app := p.app.loadReconnectPreference, prefsReady := true }
  | .history enabled => some (p.writeAll fun s => { s with chatHistoryEnabled := enabled })
  | .retention retention => some (p.writeAll fun s => { s with chatRetention := retention })
  | .effects effects =>
    let stored := if p.prefsReady then p.stored.setEffects effects else p.stored
    some ({ p with stored := stored }.writeAll fun s => { s with effects := effects })

def step (p : PreferenceApp) : Action → Option PreferenceApp
  | .table (.table (.completeConnect call reply)) =>
    -- The call has awaited its loads.
    if p.waitsForLoads call then none else p.tableStep (.table (.completeConnect call reply))
  | .table (.table .loadReconnectPreference) => none
  | .table action => p.tableStep action
  | .loadHistoryPreferences => some { p with pending := p.pending ++ [.historyLoad none] }
  | .loadAudioPreferences => some { p with pending := p.pending ++ [.audioRead none] }
  | .loadReconnectPreference => some { p with pending := p.pending ++ [.reconnectLoad] }
  | .setChatHistoryEnabled enabled => some (p.setChatHistoryEnabled enabled)
  | .setChatRetention retention => some (p.setChatRetention retention)
  | .setAudioEffects aec ns agc =>
    some { p with pending := p.pending ++ [.effects (p.nextEffects aec ns agc)] }
  | .readAudio call support =>
    if .audioRead call ∈ p.pending then some (p.readAudio call support) else none
  | .finish pending =>
    if pending ∈ p.pending then { p with pending := p.pending.erase pending }.finish pending
    else none

end PreferenceApp

end Nek0.Source
