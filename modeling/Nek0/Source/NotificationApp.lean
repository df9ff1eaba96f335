import Nek0.Source.MuteEffects

/-!
# Notification and foreground service

`_refreshNotification` in `lib/models/ts_state.dart`, the handlers that call it and the service in
`KeepAliveService.kt` that shows what it pushes. The calls of the platform channel are done in
order. A handler takes no time; the clock moves between two of them, in any direction. The
`setFullMuteAll` of the media card is its calls of `setFullMute`, one after the other. The labels
of the buttons are left out.
-/

namespace Nek0.Source.Notification

open Nek0.Library Nek0.Source.Voice

/-- What a call of `start` or `update` hands to the service. -/
structure Content where
  title : String
  text : String
  mic : Bool
  inputMuted : Bool
  fullMuted : Bool
  deriving DecidableEq, Repr

structure NotificationApp where
  voice : VoiceApp
  serverName : ConnectionId → String
  voiceActive : ConnectionId → Bool
  micGranted : Bool
  notificationStarted : Bool
  /-- In milliseconds, as the clock. -/
  lastNotification : Int
  now : Int
  /-- What the service shows while it runs. -/
  service : Option Content

/-- `applyWakeLock` in `onStartCommand` -/
def wakeLock (service : Option Content) : Bool := service.any fun shown => !shown.fullMuted

namespace NotificationApp

def build : NotificationApp where
  voice := .build
  serverName := fun _ => ""
  voiceActive := fun _ => false
  micGranted := false
  notificationStarted := false
  lastNotification := 0
  now := 0
  service := none

def notifyThrottle : Int := 600

/-- The sessions the notification is about. -/
def connectedIds (s : NotificationApp) : List ConnectionId :=
  s.voice.sessions.keys.filter fun cid => (s.voice.stateOf cid).connected

def content (s : NotificationApp) : Content :=
  let cids := s.connectedIds
  let anyInputMuted := cids.any fun cid => (s.voice.stateOf cid).inputMuted
  let anyVoice := cids.any s.voiceActive
  let names := ((cids.map s.serverName).filter (· ≠ "")).take 2
  let text := if names = [] then "server" else " • ".intercalate names
  { title := if cids.length = 1 then names.headD "TeamSpeak"
      else toString cids.length ++ " servers"
    text := if !anyInputMuted || anyVoice then text ++ " — Speaking" else text
    mic := s.micGranted
    inputMuted := anyInputMuted
    fullMuted := cids.all fun cid =>
      (s.voice.stateOf cid).inputMuted && (s.voice.stateOf cid).outputMuted }

def throttled (s : NotificationApp) : Bool :=
  s.notificationStarted && s.now - s.lastNotification < notifyThrottle

def refreshNotification (s : NotificationApp) : NotificationApp :=
  if s.throttled then s
  else
    let s := { s with lastNotification := s.now }
    if s.connectedIds = [] then { s with notificationStarted := false, service := none }
    else { s with notificationStarted := true, service := some s.content }

inductive Action where
  | tick (now : Int)
  | voice (action : VoiceApp.Action)
  /-- A `connected` event with the `server_name` it carries. -/
  | connected (cid : ConnectionId) (data : Voice.ConnectedEvent) (serverName : String)
  /-- A poll reads whether the session of the microphone is heard. -/
  | voiceRead (active : Bool)

/-- The actions of the voice part that are modelled with more data, or as several calls. -/
def isPart : VoiceApp.Action → Bool
  | .event _ (.connected _) => true
  | .setFullMuteAll _ => true
  | _ => false

/-- Whether a call of `disconnect` does something. -/
def leaves (s : VoiceApp) (cid : ConnectionId) : Bool :=
  (s.stateOf cid).connected || (s.stateOf cid).connecting

/-- A `disconnected` event is not a stale one. -/
def ends (s : VoiceApp) (cid : ConnectionId) : Bool :=
  s.hears cid && !(s.stateOf cid).connecting

/-- `_micGranted` after an action of the voice part, which led to the second state. -/
def grantedAfter (granted : Bool) (s t : VoiceApp) : VoiceApp.Action → Bool
  | .permissionAnswered answer => granted || answer
  | .orphanAnswered answer => granted || answer
  | .event cid (.disconnected ..) => granted && !ends s cid
  | .disconnect cid => granted && !(leaves s cid && s.micConnectionId = cid)
  | _ => granted && !(s.micEnabled && !t.micEnabled)

/-- The sessions that go back to their initial state. -/
def forgets (s : VoiceApp) (cid : ConnectionId) : VoiceApp.Action → Bool
  | .event other (.disconnected ..) => other = cid && s.resets cid
  | .cancelConnect other => other = cid
  | _ => false

/-- An action before it calls `_refreshNotification`. -/
def changed (s : NotificationApp) : Action → Option NotificationApp
  | .tick now => some { s with now := now }
  | .voice action =>
    if isPart action then none
    else (s.voice.step action).map fun voice =>
      { s with
        voice := voice
        serverName := fun cid => if forgets s.voice cid action then "" else s.serverName cid
        voiceActive := fun cid => s.voiceActive cid && !forgets s.voice cid action
        micGranted := grantedAfter s.micGranted s.voice voice action }
  | .connected cid data serverName =>
    let voice := s.voice.handleEvent cid (.connected data)
    if s.voice.hears cid then
      -- A server that asks the client to leave takes the microphone away.
      let closed := data.hostMessage ≠ "" && data.hostMessageMode = 3 && s.voice.micConnectionId = cid
      some { s with
        voice := voice
        serverName := Function.update s.serverName cid serverName
        micGranted := s.micGranted && !closed }
    else some { s with voice := voice }
  | .voiceRead active =>
    let cid := s.voice.micConnectionId
    if cid ≠ 0 ∧ (s.voice.rt.find cid).isSome ∧ active ≠ s.voiceActive cid then
      some { s with
        voice := s.voice.setSession cid (s.voice.stateOf cid).copy
        voiceActive := Function.update s.voiceActive cid active }
    else none

/-- The session of the notification is toggled. -/
def togglesSelected (s : VoiceApp) (wanted : ConnectionId → Bool) : Bool := s.selectedId.any wanted

/-- An action of the voice part ends with a call of `_refreshNotification`. -/
def refreshesVoice (s : VoiceApp) : VoiceApp.Action → Bool
  | .toggleInputMute _ => true
  | .toggleOutputMute _ => true
  | .setFullMute cid muted =>
    !((s.stateOf cid).inputMuted = muted && (s.stateOf cid).outputMuted = muted)
  | .notificationMute muted => togglesSelected s fun cid =>
    (s.sessions.find cid).map (·.inputMuted) ≠ some muted
  | .onAudioFocusLost => togglesSelected s fun cid =>
    (s.stateOf cid).connected && !(s.stateOf cid).inputMuted
  | .onAudioFocusRegained => togglesSelected s s.unmutes
  | .disconnect cid => leaves s cid
  | .cancelConnect _ => true
  | .event cid (.disconnected ..) => ends s cid
  | _ => false

def refreshes (s : NotificationApp) : Action → Bool
  | .tick _ => false
  | .voice action => refreshesVoice s.voice action
  | .connected cid _ _ => s.voice.hears cid
  | .voiceRead _ => true

def step (s : NotificationApp) (action : Action) : Option NotificationApp :=
  (s.changed action).map fun t => if s.refreshes action then t.refreshNotification else t

end NotificationApp

end Nek0.Source.Notification
