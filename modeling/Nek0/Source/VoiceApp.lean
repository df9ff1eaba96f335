import Nek0.Source.VoiceEngine

/-!
# Voice part of the app

`MultiServerNotifier` in `lib/models/ts_state.dart` as far as the microphone and the
voice settings go, the `AudioService` in `lib/services/audio_service.dart` and the
engine calls they make. `connect` is its parts between two waits: the settings it loads
and the session it opens. `enableMic` waits for the permission, so its answer is a step
of its own; the subscription of a service that has been dropped meanwhile stays open as
a stray one.
-/

namespace Nek0.Source.Voice

open Nek0.Library

/-- `AudioService` -/
structure AudioService where
  connectionId : ConnectionId
  running : Bool
  /-- `_micSubscription` -/
  listening : Bool
  /-- Calls of `enableMic` that wait for the permission. -/
  enabling : Nat
  deriving DecidableEq, Repr

structure SessionRuntime where
  mutedByFocusLoss : Bool
  deriving DecidableEq, Repr

/-- A captured frame that was handed to a session, and whether its input was muted. -/
structure SentFrame where
  connectionId : ConnectionId
  inputMuted : Bool
  deriving DecidableEq, Repr

structure VoiceApp where
  sessions : LinkedMap ConnectionId TsConnectionState
  order : List ConnectionId
  selectedId : Option ConnectionId
  rt : LinkedMap ConnectionId SessionRuntime
  audioService : Option AudioService
  micEnabled : Bool
  /-- Calls of `enableMic` of dropped services that wait for the permission. -/
  orphaned : Nat
  /-- A dropped service listens to the microphone. -/
  stray : Bool
  engine : VoiceEngine
  sent : List SentFrame

/-- The fields of a `connected` event that matter here, with the roster its handler
reads from the engine. -/
structure ConnectedEvent where
  clientId : Option Nat
  hostMessage : String
  hostMessageMode : Nat
  channels : List TsChannel
  clients : List TsClient
  deriving DecidableEq, Repr

/-- `retried` says whether the reconnect policy writes the session once more. -/
inductive TsEngineEvent where
  | connected (data : ConnectedEvent)
  | connectFailed (kind message : String) (retried : Bool)
  | disconnected (expected : Bool) (reason : String) (retried : Bool)
  | error (message : String)
  | clientJoined (id channelId : Nat)
  | clientLeft (id : Nat)
  | channelsUpdated (channels : List TsChannel) (clients : List TsClient)
  /-- An event that writes no other field of this model. -/
  | other (notice : Option Notice)
  deriving DecidableEq, Repr

namespace VoiceApp

def build : VoiceApp where
  sessions := .empty
  order := []
  selectedId := none
  rt := .empty
  audioService := none
  micEnabled := false
  orphaned := 0
  stray := false
  engine := .new
  sent := []

def stateOf (s : VoiceApp) (cid : ConnectionId) : TsConnectionState :=
  (s.sessions.find cid).getD .new

def setSession (s : VoiceApp) (cid : ConnectionId) (next : TsConnectionState) : VoiceApp :=
  { s with
    sessions := s.sessions.insert cid next
    order := if cid ∈ s.order then s.order else s.order ++ [cid] }

def modifyRt (s : VoiceApp) (cid : ConnectionId) (change : SessionRuntime → SessionRuntime) :
    VoiceApp :=
  { s with rt := s.rt.modify cid change }

/-- The session of the microphone, 0 for none. -/
def micConnectionId (s : VoiceApp) : ConnectionId := s.selectedId.getD (s.rt.keys.headD 0)

def shouldMicBeActive (s : VoiceApp) : Bool :=
  s.micConnectionId ≠ 0 && (s.stateOf s.micConnectionId).wantsMic

/-- The service starts for the session of the microphone, which the engine may not
have any more. -/
def startAudioService (s : VoiceApp) : VoiceApp :=
  let cid := s.micConnectionId
  if cid = 0 then s
  else
    { s with
      audioService := some ⟨cid, (s.engine.sessions cid).isSome, false, 0⟩
      engine := s.engine.startAudio cid }

/-- Stops and drops the service. -/
def stopAudioService (s : VoiceApp) : VoiceApp :=
  match s.audioService with
  | none => { s with micEnabled := false }
  | some v =>
    let s : VoiceApp :=
      { s with audioService := none, micEnabled := false, orphaned := s.orphaned + v.enabling }
    if v.running then
      if v.connectionId = 0 then s else { s with engine := s.engine.stopAudio v.connectionId }
    else { s with stray := s.stray || v.listening }

def updateMicState (s : VoiceApp) : VoiceApp :=
  match s.audioService with
  | none => if s.shouldMicBeActive then s.startAudioService else s
  | some v =>
    let v := { v with connectionId := s.micConnectionId }
    let s := { s with audioService := some v }
    if s.shouldMicBeActive && !s.micEnabled then
      { s with audioService := some { v with enabling := v.enabling + 1 }, micEnabled := true }
    else if !s.shouldMicBeActive && s.micEnabled then
      { s with audioService := some { v with listening := false }, micEnabled := false }
    else s

/-- The permission of a call of `enableMic` is decided. -/
def permissionAnswered (s : VoiceApp) (granted : Bool) : Option VoiceApp :=
  s.audioService.bind fun v =>
    if v.enabling = 0 then none
    else
      let v : AudioService :=
        { v with enabling := v.enabling - 1, listening := v.listening || granted }
      some { s with audioService := some v }

/-- The same for a service that was dropped meanwhile. -/
def orphanAnswered (s : VoiceApp) (granted : Bool) : Option VoiceApp :=
  if s.orphaned = 0 then none
  else some { s with orphaned := s.orphaned - 1, stray := s.stray || granted }

/-- A frame of the microphone. -/
def handleMicData (s : VoiceApp) : VoiceApp :=
  match s.audioService with
  | none => s
  | some v =>
    if v.listening && v.running && v.connectionId ≠ 0 && s.engine.sendsAudio v.connectionId then
      { s with
        sent := s.sent ++ [⟨v.connectionId, (s.stateOf v.connectionId).inputMuted⟩] }
    else s

def toggleInputMute (s : VoiceApp) (cid : ConnectionId) : VoiceApp :=
  let st := s.stateOf cid
  let newMuted := !st.inputMuted
  let s := if newMuted then s else s.modifyRt cid fun _ => ⟨false⟩
  let s := { s with engine := s.engine.setMuted cid newMuted st.outputMuted }
  (s.setSession cid { st.copy with inputMuted := newMuted }).updateMicState

def setFullMute (s : VoiceApp) (cid : ConnectionId) (muted : Bool) : VoiceApp :=
  let st := s.stateOf cid
  if st.inputMuted = muted ∧ st.outputMuted = muted then s
  else
    let s := { s with engine := s.engine.setMuted cid muted muted }
    (s.setSession cid { st.copy with inputMuted := muted, outputMuted := muted }).updateMicState

def setFullMuteAll (s : VoiceApp) (muted : Bool) : VoiceApp :=
  s.order.foldl (fun s cid => if (s.stateOf cid).connected then s.setFullMute cid muted else s) s

def toggleOutputMute (s : VoiceApp) (cid : ConnectionId) : VoiceApp :=
  let st := s.stateOf cid
  let newMuted := !st.outputMuted
  let s := { s with engine := s.engine.setMuted cid st.inputMuted newMuted }
  s.setSession cid { st.copy with outputMuted := newMuted }

def togglePttMode (s : VoiceApp) (cid : ConnectionId) : VoiceApp :=
  let st := s.stateOf cid
  let newPtt := !st.pttMode
  let s := { s with engine := s.engine.setVadEnabled cid !newPtt }
  let s := if newPtt then s else { s with engine := s.engine.setVadThreshold cid st.vadThreshold }
  (s.setSession cid { st.copy with pttMode := newPtt }).updateMicState

def setPttPressed (s : VoiceApp) (cid : ConnectionId) (pressed : Bool) : VoiceApp :=
  (s.setSession cid { (s.stateOf cid).copy with pttPressed := pressed }).updateMicState

def setVadThreshold (s : VoiceApp) (cid : ConnectionId) (threshold : ℚ) : VoiceApp :=
  let s := { s with engine := s.engine.setVadThreshold cid threshold }
  s.setSession cid { (s.stateOf cid).copy with vadThreshold := threshold }

def setVadEnabled (s : VoiceApp) (cid : ConnectionId) (enabled : Bool) : VoiceApp :=
  let s := { s with engine := s.engine.setVadEnabled cid enabled }
  s.setSession cid { (s.stateOf cid).copy with vadEnabled := enabled }

def setMicGain (s : VoiceApp) (cid : ConnectionId) (gain : ℚ) : VoiceApp :=
  let s := { s with engine := s.engine.setMicGain cid gain }
  s.setSession cid { (s.stateOf cid).copy with micGain := gain }

def applyWhisperPreferences (s : VoiceApp) (cid : ConnectionId) (enabled : Bool)
    (uids : List String) : VoiceApp :=
  let s := { s with
    engine := (s.engine.setWhisperAllowlist cid uids).setWhisperAllowMode cid enabled }
  s.setSession cid
    { (s.stateOf cid).copy with
      whisperAllowlistEnabled := enabled
      whisperAllowedUids := uids
      whisperActive := false
      whisperTargetClientIds := []
      whisperTargetChannelIds := [] }

def setWhisperTargets (s : VoiceApp) (cid : ConnectionId) (clientIds channelIds : List Int) :
    VoiceApp :=
  let st := s.stateOf cid
  let clients := sortedIds (clientIds.filter (· ≠ st.ownClientId))
  let channels := sortedIds channelIds
  let s := { s with engine := s.engine.setWhisperTargets cid clients channels }
  let hasTarget := !clients.isEmpty || !channels.isEmpty
  let s := if !hasTarget && st.whisperActive then
      { s with engine := s.engine.setWhisperActive cid false }
    else s
  s.setSession cid
    { st.copy with
      whisperTargetClientIds := clients
      whisperTargetChannelIds := channels
      whisperActive := hasTarget && st.whisperActive }

def setWhisperActive (s : VoiceApp) (cid : ConnectionId) (active : Bool) : VoiceApp :=
  let st := s.stateOf cid
  if active && !st.hasWhisperTargets then
    s.setSession cid
      { st with notice := { Notice.clear with
        error := some "Select at least one whisper target first" } }
  else
    let accepted := s.engine.acceptsWhisperActive cid active
    let s := { s with engine := s.engine.setWhisperActive cid active }
    if !accepted && active then s
    else s.setSession cid { st.copy with whisperActive := active }

def setWhisperAllowlistEnabled (s : VoiceApp) (cid : ConnectionId) (enabled : Bool) : VoiceApp :=
  let s := { s with engine := s.engine.setWhisperAllowMode cid enabled }
  s.setSession cid { (s.stateOf cid).copy with whisperAllowlistEnabled := enabled }

def toggleWhisperAllowedUid (s : VoiceApp) (cid : ConnectionId) (uid : String) : VoiceApp :=
  if uid = "" then s
  else
    let st := s.stateOf cid
    let uids := if uid ∈ st.whisperAllowedUids then st.whisperAllowedUids.erase uid
      else st.whisperAllowedUids ++ [uid]
    let uids := uids.mergeSort (· ≤ ·)
    let s := { s with engine := s.engine.setWhisperAllowlist cid uids }
    s.setSession cid { st.copy with whisperAllowedUids := uids }

/-- Targets that have left the server are taken from the lists. -/
def pruneWhisperTargets (s : VoiceApp) (cid : ConnectionId) : VoiceApp :=
  let st := s.stateOf cid
  if !st.hasWhisperTargets then s
  else
    let clients := st.whisperTargetClientIds.filter fun id => st.clients.any fun c => (c.id : Int) = id
    let channels := st.whisperTargetChannelIds.filter fun id => st.channels.any fun c => (c.id : Int) = id
    if clients.length = st.whisperTargetClientIds.length ∧
        channels.length = st.whisperTargetChannelIds.length then s
    else s.setWhisperTargets cid clients channels

def loadAudioPreferences (s : VoiceApp) (audio : AudioPreferences) : VoiceApp :=
  s.sessions.keys.foldl
    (fun s cid => s.setSession cid { (s.stateOf cid).copy with audio := audio }) s

def loadHistoryPreferences (s : VoiceApp) (history : HistoryPreferences) : VoiceApp :=
  s.sessions.keys.foldl
    (fun s cid => s.setSession cid { (s.stateOf cid).copy with history := history }) s

/-- `connect` from the call of the engine on, when it gives out a connection id. -/
def openSession (s : VoiceApp) (savedMicGain : Option ℚ) : VoiceApp :=
  let cid := s.engine.nextConnectionId
  let s := { s with engine := s.engine.connect, rt := s.rt.insert cid ⟨false⟩ }
  let s := savedMicGain.elim s (s.setMicGain cid)
  let s := s.setSession cid { (s.stateOf cid).copy with connecting := true }
  { s with selectedId := some cid }

/-- `resume` after its `connect`, when the microphone was muted. -/
def resumeMuted (s : VoiceApp) : VoiceApp :=
  s.sessions.keys.foldl
    (fun s cid => s.setSession cid { (s.stateOf cid).copy with inputMuted := true }) s

def selectSession (s : VoiceApp) (cid : ConnectionId) : VoiceApp :=
  if cid ∈ s.order then { s with selectedId := some cid } else s

def disconnect (s : VoiceApp) (cid : ConnectionId) : VoiceApp :=
  let s := s.setSession cid (s.stateOf cid).copy
  let st := s.stateOf cid
  if !st.connected && !st.connecting then s
  else
    let s := if s.micConnectionId = cid then s.stopAudioService else s
    s.setSession cid { (s.stateOf cid).copy with connecting := false }

def cancelConnect (s : VoiceApp) (cid : ConnectionId) : VoiceApp :=
  let order := s.order.filter (· ≠ cid)
  { s with
    rt := s.rt.erase cid
    sessions := s.sessions.erase cid
    order := order
    selectedId := if order = [] then none else s.selectedId }

/-- `retryNow` and the callback of a reconnect timer, up to the first wait of `connect`. -/
def retry (s : VoiceApp) (cid : ConnectionId) : VoiceApp := s.setSession cid (s.stateOf cid).copy

def onAudioFocusLost (s : VoiceApp) : VoiceApp :=
  match s.selectedId with
  | none => s
  | some cid =>
    if (s.stateOf cid).connected && !(s.stateOf cid).inputMuted then
      (s.modifyRt cid fun _ => ⟨true⟩).toggleInputMute cid
    else s

def onAudioFocusRegained (s : VoiceApp) : VoiceApp :=
  match s.selectedId with
  | none => s
  | some cid =>
    if (s.rt.find cid).any (·.mutedByFocusLoss) then
      let s := s.modifyRt cid fun _ => ⟨false⟩
      if !(s.stateOf cid).connected || !(s.stateOf cid).inputMuted then s
      else s.toggleInputMute cid
    else s

/-- The mute button of the notification. -/
def notificationMute (s : VoiceApp) (inputMuted : Bool) : VoiceApp :=
  match s.selectedId with
  | none => s
  | some cid =>
    if (s.sessions.find cid).map (·.inputMuted) = some inputMuted then s
    else s.toggleInputMute cid

/-- Host message modes 2 and 3 are shown as an error; mode 3 asks the client to leave. -/
def hydrateServerMessages (s : VoiceApp) (cid : ConnectionId) (data : ConnectedEvent) :
    VoiceApp :=
  if data.hostMessage ≠ "" ∧ 2 ≤ data.hostMessageMode then
    let notice := if data.hostMessageMode = 3 then
        data.hostMessage ++ "\n(The server requested this connection to close.)"
      else data.hostMessage
    let s := s.setSession cid
      { s.stateOf cid with notice := { Notice.clear with error := some notice } }
    if data.hostMessageMode = 3 then s.disconnect cid else s
  else s

/-- The session once the handshake is over. -/
def connectedState (st : TsConnectionState) (data : ConnectedEvent) : TsConnectionState :=
  let ownId := data.clientId.getD st.ownClientId
  { st.copy with
    connecting := false
    connected := true
    ownClientId := ownId
    channels := data.channels
    clients := data.clients
    selectedChannelId := (data.clients.find? (·.id == ownId)).map (·.channelId) }

def handleConnected (s : VoiceApp) (cid : ConnectionId) (data : ConnectedEvent) : VoiceApp :=
  let s := s.setSession cid (connectedState (s.stateOf cid) data)
  let s := s.hydrateServerMessages cid data
  if s.audioService.isNone then s.startAudioService else s

def handleConnectFailed (s : VoiceApp) (cid : ConnectionId) (kind message : String)
    (retried : Bool) : VoiceApp :=
  let notice : Notice :=
    if retried then .clear
    else { Notice.clear with error := some message, connectErrorKind := some kind }
  s.setSession cid
    { s.stateOf cid with connecting := false, connected := false, notice := notice }

/-- The session after it has been lost. -/
def disconnectedState (st : TsConnectionState) (expected : Bool) (reason : String)
    (retried : Bool) : TsConnectionState :=
  let notice : Notice :=
    if expected || retried then .clear
    else { Notice.clear with error := some reason, connectErrorKind := some "connection_lost" }
  { TsConnectionState.new with history := st.history, notice := notice }

def handleDisconnected (s : VoiceApp) (cid : ConnectionId) (expected : Bool) (reason : String)
    (retried : Bool) : VoiceApp :=
  -- While the session is connecting the event is a stale one.
  if (s.stateOf cid).connecting then s
  else
    let s := s.stopAudioService
    if (s.rt.find cid).isSome then
      s.setSession cid (disconnectedState (s.stateOf cid) expected reason retried)
    else s

def handleError (s : VoiceApp) (cid : ConnectionId) (message : String) : VoiceApp :=
  s.setSession cid
    { s.stateOf cid with
      connecting := false, notice := { Notice.clear with error := some message } }

def setRoster (s : VoiceApp) (cid : ConnectionId) (channels : List TsChannel)
    (clients : List TsClient) : VoiceApp :=
  s.setSession cid { (s.stateOf cid).copy with channels := channels, clients := clients }

/-- An event of a session that was removed is dropped. -/
def handleEvent (s : VoiceApp) (cid : ConnectionId) (event : TsEngineEvent) : VoiceApp :=
  if cid ≠ 0 ∧ s.rt.find cid = none then s
  else
    let st := s.stateOf cid
    match event with
    | .connected data => s.handleConnected cid data
    | .connectFailed kind message retried => s.handleConnectFailed cid kind message retried
    | .disconnected expected reason retried => s.handleDisconnected cid expected reason retried
    | .error message => s.handleError cid message
    | .clientJoined id channelId =>
      s.setRoster cid st.channels (st.clients ++ [⟨id, channelId, 0, false⟩])
    | .clientLeft id => s.setRoster cid st.channels (st.clients.filter (·.id ≠ id))
    | .channelsUpdated channels clients =>
      if channels ≠ st.channels ∨ clients ≠ st.clients then s.setRoster cid channels clients
      else s
    | .other notice => notice.elim s fun notice => s.setSession cid { st with notice := notice }

/-- The roster of a session as a poll finds it. -/
def reconcileRoster (s : VoiceApp) (cid : ConnectionId) (clients : List TsClient) : VoiceApp :=
  let st := s.stateOf cid
  let s := if clients ≠ [] ∧ clients ≠ st.clients then s.setRoster cid st.channels clients else s
  s.pruneWhisperTargets cid

/-- Everything that can happen to the voice part. -/
inductive Action where
  | loadAudioPreferences (audio : AudioPreferences)
  | loadHistoryPreferences (history : HistoryPreferences)
  | openSession (savedMicGain : Option ℚ)
  | resumeMuted
  | selectSession (cid : ConnectionId)
  | disconnect (cid : ConnectionId)
  | cancelConnect (cid : ConnectionId)
  | retry (cid : ConnectionId)
  | toggleInputMute (cid : ConnectionId)
  | setFullMute (cid : ConnectionId) (muted : Bool)
  | setFullMuteAll (muted : Bool)
  | toggleOutputMute (cid : ConnectionId)
  | togglePttMode (cid : ConnectionId)
  | setPttPressed (cid : ConnectionId) (pressed : Bool)
  | setVadThreshold (cid : ConnectionId) (threshold : ℚ)
  | setVadEnabled (cid : ConnectionId) (enabled : Bool)
  | setMicGain (cid : ConnectionId) (gain : ℚ)
  | applyWhisperPreferences (cid : ConnectionId) (enabled : Bool) (uids : List String)
  | setWhisperTargets (cid : ConnectionId) (clientIds channelIds : List Int)
  | setWhisperActive (cid : ConnectionId) (active : Bool)
  | setWhisperAllowlistEnabled (cid : ConnectionId) (enabled : Bool)
  | toggleWhisperAllowedUid (cid : ConnectionId) (uid : String)
  | onAudioFocusLost
  | onAudioFocusRegained
  | notificationMute (inputMuted : Bool)
  | event (cid : ConnectionId) (event : TsEngineEvent)
  | reconcileRoster (cid : ConnectionId) (clients : List TsClient)
  | permissionAnswered (granted : Bool)
  | orphanAnswered (granted : Bool)
  | handleMicData
  /-- The handshake of an engine session is over. -/
  | engineConnected (cid : ConnectionId) (ownClientId : Nat)
  /-- An engine session leaves the table. -/
  | engineRemoved (cid : ConnectionId)

def step (s : VoiceApp) : Action → Option VoiceApp
  | .loadAudioPreferences audio => some (s.loadAudioPreferences audio)
  | .loadHistoryPreferences history => some (s.loadHistoryPreferences history)
  | .openSession savedMicGain => some (s.openSession savedMicGain)
  | .resumeMuted => some s.resumeMuted
  | .selectSession cid => some (s.selectSession cid)
  | .disconnect cid => some (s.disconnect cid)
  | .cancelConnect cid => some (s.cancelConnect cid)
  | .retry cid => some (s.retry cid)
  | .toggleInputMute cid => some (s.toggleInputMute cid)
  | .setFullMute cid muted => some (s.setFullMute cid muted)
  | .setFullMuteAll muted => some (s.setFullMuteAll muted)
  | .toggleOutputMute cid => some (s.toggleOutputMute cid)
  | .togglePttMode cid => some (s.togglePttMode cid)
  | .setPttPressed cid pressed => some (s.setPttPressed cid pressed)
  | .setVadThreshold cid threshold => some (s.setVadThreshold cid threshold)
  | .setVadEnabled cid enabled => some (s.setVadEnabled cid enabled)
  | .setMicGain cid gain => some (s.setMicGain cid gain)
  | .applyWhisperPreferences cid enabled uids => some (s.applyWhisperPreferences cid enabled uids)
  | .setWhisperTargets cid clientIds channelIds =>
    some (s.setWhisperTargets cid clientIds channelIds)
  | .setWhisperActive cid active => some (s.setWhisperActive cid active)
  | .setWhisperAllowlistEnabled cid enabled => some (s.setWhisperAllowlistEnabled cid enabled)
  | .toggleWhisperAllowedUid cid uid => some (s.toggleWhisperAllowedUid cid uid)
  | .onAudioFocusLost => some s.onAudioFocusLost
  | .onAudioFocusRegained => some s.onAudioFocusRegained
  | .notificationMute inputMuted => some (s.notificationMute inputMuted)
  | .event cid event => some (s.handleEvent cid event)
  | .reconcileRoster cid clients => some (s.reconcileRoster cid clients)
  | .permissionAnswered granted => s.permissionAnswered granted
  | .orphanAnswered granted => s.orphanAnswered granted
  | .handleMicData => some s.handleMicData
  | .engineConnected cid ownClientId =>
    some { s with engine := s.engine.connected cid ownClientId }
  | .engineRemoved cid => some { s with engine := s.engine.remove cid }

end VoiceApp

end Nek0.Source.Voice
