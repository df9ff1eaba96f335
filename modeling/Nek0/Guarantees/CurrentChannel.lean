import Nek0.Library.Run
import Nek0.Source.VoiceEffects

/-!
# The current channel

The channel that the app takes for the current one is set when a session connects and
not again. It is the channel of the own client as long as the roster does not show this
client somewhere else.
-/

namespace Nek0.Guarantees

open Nek0.Library Nek0.Source.Voice Nek0.Source.Voice.VoiceApp
open Nek0.Source (ConnectionId)

/-- The channel with an id, if the roster has one. -/
def channelWith (channels : List TsChannel) (id : Option Nat) : Option TsChannel :=
  id.bind fun id => channels.find? (·.id == id)

/-- The id of the channel that a roster shows a client in. -/
def channelOf (clients : List TsClient) (id : Nat) : Option Nat :=
  (clients.find? (·.id == id)).map (·.channelId)

/-- The channel the own client is in according to the roster. -/
def ownChannel (st : TsConnectionState) : Option TsChannel :=
  channelWith st.channels (channelOf st.clients st.ownClientId)

def InChannel (st : TsConnectionState) : Prop :=
  st.connected = true → st.currentChannel = ownChannel st

/-- Two ids name the same channel of a roster only if they are the same or name none. -/
theorem channelWith_eq_iff {channels : List TsChannel} {a b : Option Nat} :
    channelWith channels a = channelWith channels b ↔
      a = b ∨ channelWith channels a = none ∧ channelWith channels b = none := by
  constructor
  · intro same
    cases found : channelWith channels a with
    | none => exact .inr ⟨rfl, same ▸ found⟩
    | some channel =>
      have id_of {id : Option Nat} (found : channelWith channels id = some channel) :
          id = some channel.id := by
        cases id with
        | none => cases found
        | some id =>
          have hit := List.find?_some found
          simp only [beq_iff_eq] at hit
          rw [hit]
      exact .inl ((id_of found).trans (id_of (same ▸ found)).symm)
  · rintro (same | ⟨first, second⟩)
    · rw [same]
    · rw [first, second]

/-- A roster shows the own client where it was when the session connected, or neither
channel is in the roster. -/
def staysWith (st : TsConnectionState) (channels : List TsChannel) (clients : List TsClient) :
    Bool :=
  !st.connected || channelOf clients st.ownClientId = st.selectedChannelId ||
    ((channelWith channels (channelOf clients st.ownClientId)).isNone &&
      (channelWith channels st.selectedChannelId).isNone)

/-- With a new roster the current channel is the real one exactly if the own client has
stayed. -/
theorem inChannel_roster_iff {st : TsConnectionState} {channels : List TsChannel}
    {clients : List TsClient} :
    InChannel { st.copy with channels := channels, clients := clients } ↔
      staysWith st channels clients = true := by
  have current : InChannel { st.copy with channels := channels, clients := clients } ↔
      (st.connected = true → channelWith channels (channelOf clients st.ownClientId) =
        channelWith channels st.selectedChannelId) :=
    forall_congr' fun _ => eq_comm
  rw [current, channelWith_eq_iff]
  cases connected : st.connected <;> simp [staysWith, connected]

def rosterView (st : TsConnectionState) :
    Bool × Nat × List TsChannel × List TsClient × Option Nat :=
  (st.connected, st.ownClientId, st.channels, st.clients, st.selectedChannelId)

theorem inChannel_congr {st other : TsConnectionState} (same : rosterView st = rosterView other)
    (inChannel : InChannel other) : InChannel st := by
  simp only [rosterView, Prod.mk.injEq] at same
  obtain ⟨connected, own, channels, clients, selected⟩ := same
  intro live
  have current := inChannel (connected ▸ live)
  simpa [TsConnectionState.currentChannel, ownChannel, channelOf, own, channels, clients, selected]
    using current

theorem inChannel_connected (st : TsConnectionState) (data : ConnectedEvent) :
    InChannel (connectedState st data) := fun _ => rfl

/-- A roster that a step brings in shows the own client where it was. -/
def stays (s : VoiceApp) : Action → Bool
  | .event cid (.clientJoined id channelId) =>
    staysWith (s.stateOf cid) (s.stateOf cid).channels
      ((s.stateOf cid).clients ++ [⟨id, channelId, 0, false⟩])
  | .event cid (.clientLeft id) =>
    staysWith (s.stateOf cid) (s.stateOf cid).channels
      ((s.stateOf cid).clients.filter (·.id ≠ id))
  | .event cid (.channelsUpdated channels clients) => staysWith (s.stateOf cid) channels clients
  | .reconcileRoster cid clients =>
    clients.isEmpty || staysWith (s.stateOf cid) (s.stateOf cid).channels clients
  | _ => true

def InChannels (s : VoiceApp) : Prop := ∀ cid, InChannel (s.stateOf cid)

theorem inChannels_keeps {s t : VoiceApp} (inChannels : InChannels s)
    (keeps : Keeps rosterView s t) : InChannels t :=
  fun cid => inChannel_congr (keeps cid) (inChannels cid)

theorem inChannels_setSession {s : VoiceApp} {cid : ConnectionId} {next : TsConnectionState}
    (inChannels : InChannels s) (new : InChannel next) : InChannels (s.setSession cid next) := by
  intro queried
  rw [stateOf_setSession]
  split
  · exact new
  · exact inChannels queried

theorem inChannels_roster {s : VoiceApp} {cid : ConnectionId} {channels : List TsChannel}
    {clients : List TsClient} (inChannels : InChannels s)
    (stays : staysWith (s.stateOf cid) channels clients = true) :
    InChannels (s.setRoster cid channels clients) :=
  inChannels_setSession inChannels (inChannel_roster_iff.mpr stays)

theorem inChannel_offline {st : TsConnectionState} (offline : st.connected = false) :
    InChannel st := fun live => absurd (offline ▸ live) Bool.false_ne_true

theorem inChannels_cancel {s : VoiceApp} {cid : ConnectionId} (inChannels : InChannels s) :
    InChannels (s.cancelConnect cid) := by
  intro queried
  by_cases here : queried = cid
  · have gone : (s.cancelConnect cid).stateOf queried = .new := by
      simp [stateOf, cancelConnect, here]
    rw [gone]
    exact inChannel_offline rfl
  · have kept : (s.cancelConnect cid).stateOf queried = s.stateOf queried := by
      simp [stateOf, cancelConnect, here]
    rw [kept]
    exact inChannels queried

theorem inChannels_handleConnected {s : VoiceApp} {cid : ConnectionId} {data : ConnectedEvent}
    (inChannels : InChannels s) : InChannels (s.handleConnected cid data) := by
  have connected : InChannels (s.setSession cid (connectedState (s.stateOf cid) data)) :=
    inChannels_setSession inChannels (inChannel_connected _ _)
  exact inChannels_keeps connected (keeps_handleConnected (fun _ _ => rfl) fun _ => rfl)

theorem inChannels_handleDisconnected {s : VoiceApp} {cid : ConnectionId} {expected : Bool}
    {reason : String} {retried : Bool} (inChannels : InChannels s) :
    InChannels (s.handleDisconnected cid expected reason retried) := by
  have stopped : InChannels s.stopAudioService :=
    inChannels_keeps inChannels (keeps_of_sessions (stopAudioService_sessions s))
  simp only [handleDisconnected]
  repeat' split
  · exact inChannels
  · exact inChannels_setSession stopped (inChannel_offline rfl)
  · exact stopped

theorem inChannels_event {s : VoiceApp} {cid : ConnectionId} {event : TsEngineEvent}
    (inChannels : InChannels s) (stay : stays s (.event cid event) = true) :
    InChannels (s.handleEvent cid event) := by
  simp only [handleEvent]
  split
  · exact inChannels
  · cases event with
    | connected data => exact inChannels_handleConnected inChannels
    | connectFailed => exact inChannels_setSession inChannels (inChannel_offline rfl)
    | disconnected => exact inChannels_handleDisconnected inChannels
    | error => exact inChannels_keeps inChannels (keeps_setSession rfl)
    | clientJoined => exact inChannels_roster inChannels stay
    | clientLeft => exact inChannels_roster inChannels stay
    | channelsUpdated =>
      dsimp only
      split
      · exact inChannels_roster inChannels stay
      · exact inChannels
    | other notice =>
      cases notice with
      | none => exact inChannels
      | some notice => exact inChannels_keeps inChannels (keeps_setSession rfl)

theorem inChannels_reconcile {s : VoiceApp} {cid : ConnectionId} {clients : List TsClient}
    (inChannels : InChannels s) (stay : stays s (.reconcileRoster cid clients) = true) :
    InChannels (s.reconcileRoster cid clients) := by
  simp only [stays, Bool.or_eq_true, List.isEmpty_iff] at stay
  simp only [reconcileRoster]
  refine inChannels_keeps ?_ (keeps_pruneWhisperTargets fun _ _ _ _ => rfl)
  split
  · rename_i changed
    exact inChannels_roster inChannels (stay.resolve_left changed.1)
  · exact inChannels

theorem inChannels_step {s t : VoiceApp} {action : Action} (inChannels : InChannels s)
    (stay : stays s action = true) (taken : s.step action = some t) : InChannels t := by
  cases action with
  | event => cases taken; exact inChannels_event inChannels stay
  | reconcileRoster => cases taken; exact inChannels_reconcile inChannels stay
  | cancelConnect => cases taken; exact inChannels_cancel inChannels
  | permissionAnswered => exact inChannels_keeps inChannels (keeps_permissionAnswered taken)
  | orphanAnswered => exact inChannels_keeps inChannels (keeps_orphanAnswered taken)
  | loadAudioPreferences =>
    cases taken
    exact inChannels_keeps inChannels (keeps_loadAudioPreferences fun _ => rfl)
  | loadHistoryPreferences =>
    cases taken
    exact inChannels_keeps inChannels (keeps_loadHistoryPreferences fun _ => rfl)
  | openSession =>
    cases taken
    exact inChannels_keeps inChannels (keeps_openSession (fun _ _ => rfl) fun _ => rfl)
  | resumeMuted =>
    cases taken
    exact inChannels_keeps inChannels (keeps_resumeMuted fun _ => rfl)
  | selectSession => cases taken; exact inChannels_keeps inChannels keeps_selectSession
  | disconnect =>
    cases taken
    exact inChannels_keeps inChannels (keeps_disconnect (fun _ => rfl) fun _ => rfl)
  | retry => cases taken; exact inChannels_keeps inChannels (keeps_retry fun _ => rfl)
  | toggleInputMute =>
    cases taken
    exact inChannels_keeps inChannels (keeps_toggleInputMute fun _ _ => rfl)
  | setFullMute =>
    cases taken
    exact inChannels_keeps inChannels (keeps_setFullMute fun _ => rfl)
  | setFullMuteAll =>
    cases taken
    exact inChannels_keeps inChannels (keeps_setFullMuteAll fun _ => rfl)
  | toggleOutputMute =>
    cases taken
    exact inChannels_keeps inChannels (keeps_toggleOutputMute fun _ _ => rfl)
  | togglePttMode =>
    cases taken
    exact inChannels_keeps inChannels (keeps_togglePttMode fun _ _ => rfl)
  | setPttPressed =>
    cases taken
    exact inChannels_keeps inChannels (keeps_setPttPressed fun _ => rfl)
  | setVadThreshold =>
    cases taken
    exact inChannels_keeps inChannels (keeps_setVadThreshold fun _ => rfl)
  | setVadEnabled =>
    cases taken
    exact inChannels_keeps inChannels (keeps_setVadEnabled fun _ => rfl)
  | setMicGain => cases taken; exact inChannels_keeps inChannels (keeps_setMicGain fun _ => rfl)
  | applyWhisperPreferences =>
    cases taken
    exact inChannels_keeps inChannels (keeps_applyWhisperPreferences fun _ => rfl)
  | setWhisperTargets =>
    cases taken
    exact inChannels_keeps inChannels (keeps_setWhisperTargets fun _ _ _ _ => rfl)
  | setWhisperActive =>
    cases taken
    exact inChannels_keeps inChannels (keeps_setWhisperActive (fun _ _ => rfl) fun _ _ => rfl)
  | setWhisperAllowlistEnabled =>
    cases taken
    exact inChannels_keeps inChannels (keeps_setWhisperAllowlistEnabled fun _ => rfl)
  | toggleWhisperAllowedUid =>
    cases taken
    exact inChannels_keeps inChannels (keeps_toggleWhisperAllowedUid fun _ _ => rfl)
  | onAudioFocusLost =>
    cases taken
    exact inChannels_keeps inChannels (keeps_onAudioFocusLost fun _ _ => rfl)
  | onAudioFocusRegained =>
    cases taken
    exact inChannels_keeps inChannels (keeps_onAudioFocusRegained fun _ _ => rfl)
  | notificationMute =>
    cases taken
    exact inChannels_keeps inChannels (keeps_notificationMute fun _ _ => rfl)
  | handleMicData => cases taken; exact inChannels_keeps inChannels keeps_handleMicData
  | engineConnected => cases taken; exact inChannels
  | engineRemoved => cases taken; exact inChannels

/-- In every run whose rosters show the own client where it was when the session
connected, the current channel of every connected session is the one of its own client. -/
theorem current_channel_is_own (actions : List Action) (s : VoiceApp)
    (run : Run VoiceApp.step (fun s action => stays s action = true) .build actions s)
    (cid : ConnectionId) (connected : (s.stateOf cid).connected = true) :
    (s.stateOf cid).currentChannel = ownChannel (s.stateOf cid) := by
  have initial : InChannels .build := fun _ => inChannel_offline rfl
  have inChannels := run.invariant InChannels initial fun _ _ _ before stay taken =>
    inChannels_step before stay taken
  exact inChannels cid connected

/-- Client 5 joins a server with two channels, of which the second needs talk power. -/
def joined : ConnectedEvent := ⟨some 5, "", 0, [⟨10, 0⟩, ⟨20, 50⟩], [⟨5, 10, 0, false⟩]⟩

/-- Another client comes and goes. -/
def visitedHistory : List Action :=
  [.openSession none, .event 1 (.connected joined), .event 1 (.clientJoined 6 20),
    .reconcileRoster 1 [⟨5, 10, 0, false⟩, ⟨6, 20, 75, false⟩], .event 1 (.clientLeft 6)]

theorem visited_channel_is_own :
    ∃ s : VoiceApp, (s.stateOf 1).currentChannel = some ⟨10, 0⟩ ∧
      (s.stateOf 1).currentChannel = ownChannel (s.stateOf 1) := by
  obtain ⟨s, run, current⟩ := reaches_of_guarded stays (show
    (exec (guarded stays VoiceApp.step) .build visitedHistory).any (fun s =>
      (s.stateOf 1).connected && (s.stateOf 1).currentChannel == some ⟨10, 0⟩) = true by
    decide +kernel)
  simp only [Bool.and_eq_true, beq_iff_eq] at current
  exact ⟨s, current.2, current_channel_is_own visitedHistory s run 1 current.1⟩

/-- Somebody moves the own client to the channel that needs talk power. -/
def movedHistory : List Action :=
  [.openSession none, .event 1 (.connected joined),
    .event 1 (.channelsUpdated [⟨10, 0⟩, ⟨20, 50⟩] [⟨5, 20, 0, false⟩])]

/-- The app goes on with the old channel, so push-to-talk is not forced. -/
theorem moved_client_keeps_channel :
    ∃ s, Run VoiceApp.step anyStep .build movedHistory s ∧
      (s.stateOf 1).currentChannel = some ⟨10, 0⟩ ∧ (s.stateOf 1).forcedPtt = false ∧
      ¬ ((s.stateOf 1).connected = true →
        (s.stateOf 1).currentChannel = ownChannel (s.stateOf 1)) := by
  obtain ⟨s, run, moved⟩ := reaches_of_exec anyStep (fun _ _ _ => trivial) (show
    (exec VoiceApp.step .build movedHistory).any (fun s =>
      (s.stateOf 1).connected && (s.stateOf 1).currentChannel == some ⟨10, 0⟩ &&
      !(s.stateOf 1).forcedPtt && ownChannel (s.stateOf 1) == some ⟨20, 50⟩) = true by
    decide +kernel)
  simp only [Bool.and_eq_true, beq_iff_eq, Bool.not_eq_true'] at moved
  obtain ⟨⟨⟨connected, current⟩, free⟩, own⟩ := moved
  refine ⟨s, run, current, free, fun same => ?_⟩
  rw [current, own] at same
  simpa using same connected

end Nek0.Guarantees
