import Mathlib.Data.List.Dedup
import Mathlib.Data.Rat.Defs
import Mathlib.Order.Basic

/-!
# Voice state of a session in the app

The fields of `TsConnectionState` in `lib/models/ts_state.dart` that decide when and
where the microphone transmits, with the roster they are read against, and the settings
that `connect` writes to every session. Chat, files, statistics and the reconnect
countdown are left out. Doubles are rational numbers; their rounding to `f32` on the way
to the engine is left out.
-/

namespace Nek0.Source.Voice

structure TsChannel where
  id : Nat
  neededTalkPower : Int
  deriving DecidableEq, Repr

structure TsClient where
  id : Nat
  channelId : Nat
  talkPower : Int
  talkPowerGranted : Bool
  deriving DecidableEq, Repr

/-- What `loadAudioPreferences` writes. -/
structure AudioPreferences where
  aecEnabled : Bool
  nsEnabled : Bool
  agcEnabled : Bool
  /-- Which of the three effects the device has. -/
  effectSupport : Bool × Bool × Bool
  audioRoute : String
  availableRoutes : List String
  deriving DecidableEq, Repr

def AudioPreferences.initial : AudioPreferences :=
  ⟨true, true, false, (false, false, false), "auto", ["auto"]⟩

/-- What `loadHistoryPreferences` writes. -/
structure HistoryPreferences where
  chatHistoryEnabled : Bool
  retentionDays : Nat
  deriving DecidableEq, Repr

def HistoryPreferences.initial : HistoryPreferences := ⟨false, 30⟩

/-- The fields that every `copyWith` clears which does not set them. -/
structure Notice where
  error : Option String
  errorCode : Option String
  missingPermission : Option String
  connectErrorKind : Option String
  deriving DecidableEq, Repr

def Notice.clear : Notice := ⟨none, none, none, none⟩

structure TsConnectionState where
  connected : Bool
  connecting : Bool
  ownClientId : Nat
  channels : List TsChannel
  clients : List TsClient
  selectedChannelId : Option Nat
  inputMuted : Bool
  outputMuted : Bool
  pttMode : Bool
  pttPressed : Bool
  vadEnabled : Bool
  vadThreshold : ℚ
  micGain : ℚ
  whisperActive : Bool
  whisperTargetClientIds : List Int
  whisperTargetChannelIds : List Int
  whisperAllowlistEnabled : Bool
  whisperAllowedUids : List String
  audio : AudioPreferences
  history : HistoryPreferences
  notice : Notice
  deriving DecidableEq

namespace TsConnectionState

def new : TsConnectionState where
  connected := false
  connecting := false
  ownClientId := 0
  channels := []
  clients := []
  selectedChannelId := none
  inputMuted := false
  outputMuted := false
  pttMode := false
  pttPressed := false
  vadEnabled := true
  vadThreshold := 1 / 200
  micGain := 1
  whisperActive := false
  whisperTargetClientIds := []
  whisperTargetChannelIds := []
  whisperAllowlistEnabled := false
  whisperAllowedUids := []
  audio := .initial
  history := .initial
  notice := .clear

/-- `copyWith` before it sets a field. -/
def copy (st : TsConnectionState) : TsConnectionState := { st with notice := .clear }

def hasWhisperTargets (st : TsConnectionState) : Bool :=
  !st.whisperTargetClientIds.isEmpty || !st.whisperTargetChannelIds.isEmpty

def ownClient (st : TsConnectionState) : Option TsClient :=
  st.clients.find? (·.id == st.ownClientId)

def currentChannel (st : TsConnectionState) : Option TsChannel :=
  st.selectedChannelId.bind fun selected => st.channels.find? (·.id == selected)

def canTalkInCurrentChannel (st : TsConnectionState) : Bool :=
  match st.currentChannel with
  | none => true
  | some channel =>
    if channel.neededTalkPower ≤ 0 then true
    else
      match st.ownClient with
      | none => false
      | some self => self.talkPowerGranted || channel.neededTalkPower ≤ self.talkPower

def forcedPtt (st : TsConnectionState) : Bool :=
  st.currentChannel.isSome && !st.canTalkInCurrentChannel

/-- What `_shouldMicBeActive` asks of the session of the microphone. -/
def wantsMic (st : TsConnectionState) : Bool :=
  if st.forcedPtt then st.pttPressed
  else if st.pttMode then st.pttPressed
  else !st.inputMuted

end TsConnectionState

/-- A Dart set as a sorted list. -/
def sortedIds (ids : List Int) : List Int := ids.dedup.mergeSort (· ≤ ·)

end Nek0.Source.Voice
