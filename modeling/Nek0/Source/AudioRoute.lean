import Mathlib.Data.List.Basic

/-!
# Audio routes

The output routing of `VoiceAudioController.kt`, with `startMic` and `stopMic` of `MainActivity.kt`
as far as they use it. `modern` says that the system is Android 12 or newer, where one call selects
the device; before, two flags do. The platform may refuse to select a device, and takes the
selection back when the device disappears. The effects and the audio focus do not touch the route.
-/

namespace Nek0.Source.AudioRoute

/-- A route identifier shared with Dart, or any other text. -/
inductive Route where
  | auto
  | earpiece
  | speaker
  | wired
  | usb
  | bluetooth
  | unknown (id : String)
  deriving DecidableEq, Repr

/-- A type of `AudioDeviceInfo`. -/
inductive DeviceType where
  | builtinEarpiece
  | builtinSpeaker
  | wiredHeadset
  | wiredHeadphones
  | usbHeadset
  | usbDevice
  | bluetoothSco
  | bleHeadset
  | other (type : Nat)
  deriving DecidableEq, Repr

def matchingDeviceTypes : Route → List DeviceType
  | .earpiece => [.builtinEarpiece]
  | .speaker => [.builtinSpeaker]
  | .wired => [.wiredHeadset, .wiredHeadphones]
  | .usb => [.usbHeadset, .usbDevice]
  | .bluetooth => [.bluetoothSco, .bleHeadset]
  | .auto | .unknown _ => []

inductive AudioMode where
  | normal
  | inCommunication
  deriving DecidableEq, Repr

structure VoiceAudio where
  /-- The outputs that are there. -/
  devices : List DeviceType
  communicationDevice : Option DeviceType
  isSpeakerphoneOn : Bool
  isBluetoothScoOn : Bool
  mode : AudioMode
  requestedRoute : Route
  isRecording : Bool
  /-- The last route that the user has requested. -/
  wanted : Option Route
  /-- `startMic` has just returned true. -/
  started : Bool
  deriving DecidableEq, Repr

namespace VoiceAudio

def start : VoiceAudio where
  devices := []
  communicationDevice := none
  isSpeakerphoneOn := false
  isBluetoothScoOn := false
  mode := .normal
  requestedRoute := .auto
  isRecording := false
  wanted := none
  started := false

variable (modern : Bool) (s : VoiceAudio)

def deviceOf (route : Route) : Option DeviceType :=
  s.devices.find? (· ∈ matchingDeviceTypes route)

def clearForcedRoute : VoiceAudio :=
  let s := { s with requestedRoute := .auto }
  if modern then { s with communicationDevice := none }
  else { s with isBluetoothScoOn := false, isSpeakerphoneOn := false }

/-- The flags of a route. Where SCO does not start at once, the route is kept. -/
def applyLegacyRoute : Route → VoiceAudio
  | .bluetooth => { s with isSpeakerphoneOn := false, isBluetoothScoOn := true }
  | .speaker => { s with isBluetoothScoOn := false, isSpeakerphoneOn := true }
  | _ => { s with isBluetoothScoOn := false, isSpeakerphoneOn := false }

/-- The new state, and the route that is answered. A refused call has changed nothing. -/
def applyRoute (route : Route) (accepted : Bool) : VoiceAudio × Route :=
  let s := { s with requestedRoute := route }
  if route = .auto then (s.clearForcedRoute modern, .auto)
  else
    match s.deviceOf route with
    | none => (s.clearForcedRoute modern, .auto)
    | some device =>
      if !accepted then (s, .auto)
      else if modern then ({ s with communicationDevice := some device }, route)
      else (s.applyLegacyRoute route, route)

def startVoiceMode : VoiceAudio := { s with mode := .inCommunication }

def stopVoiceMode : VoiceAudio := { s.clearForcedRoute modern with mode := .normal }

/-- `startMic`, which says whether capture is on. -/
def startMic (opened accepted : Bool) : VoiceAudio × Bool :=
  if s.isRecording then (s, true)
  else if !opened then (s, false)
  else
    let s := s.startVoiceMode
    let s := (s.applyRoute modern s.requestedRoute accepted).1
    ({ s with isRecording := true }, true)

def stopMic : VoiceAudio := { s with isRecording := false }.stopVoiceMode modern

/-- Devices appear or disappear, and with a device its selection. -/
def devicesChanged (devices : List DeviceType) : VoiceAudio :=
  { s with
    devices
    communicationDevice := s.communicationDevice.filter (· ∈ devices)
    isBluetoothScoOn :=
      s.isBluetoothScoOn && devices.any (· ∈ matchingDeviceTypes .bluetooth) }

inductive Action where
  /-- `set_route` -/
  | setRoute (route : Route) (accepted : Bool)
  | startMic (opened accepted : Bool)
  | stopMic
  | devicesChanged (devices : List DeviceType)
  deriving DecidableEq, Repr

def step (modern : Bool) (s : VoiceAudio) : Action → Option VoiceAudio
  | .setRoute route accepted =>
    some { (s.applyRoute modern route accepted).1 with wanted := some route, started := false }
  | .startMic opened accepted =>
    let (s, started) := s.startMic modern opened accepted
    some { s with started }
  | .stopMic => some { s.stopMic modern with started := false }
  | .devicesChanged devices => some { s.devicesChanged devices with started := false }

end VoiceAudio

end Nek0.Source.AudioRoute
