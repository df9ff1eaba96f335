import Nek0.Source.ChatThreads
import Nek0.Source.SessionTabs

/-!
# Chat history in the app

What `TsState` in `lib/models/ts_state.dart` does with the messages of its sessions and their
history files, over the connection table. A record has here, beyond the fields of the table, the
conversations, the mute flags and what `loadChannelUiPrefs` loads; `others` are the fields that
nothing here looks at. The one-shot error texts, which every write of a record clears, are left
out.

`ChatHistoryService` calls the platform, which does one thing after the other: a file is read and
written when it is asked for, and only the answer comes later.
-/

namespace Nek0.Source

open Nek0.Library

/-- A message, and which one of the run it is. -/
structure LoggedMessage where
  serial : Nat
  message : ChatMessage
  deriving DecidableEq, Repr

/-- `ChatHistoryService.prune` -/
def pruneLogged (messages : List LoggedMessage) (retention : HistoryRetention) (now : Nat) :
    List LoggedMessage :=
  let kept := messages.filter fun m => now < m.message.timestamp + retention.days * 86400000
  kept.drop (kept.length - ChatHistoryService.maxEntriesPerServer)

theorem pruneLogged_message (messages : List LoggedMessage) (retention : HistoryRetention)
    (now : Nat) : (pruneLogged messages retention now).map (·.message) =
      ChatHistoryService.prune (messages.map (·.message)) retention now := by
  simp only [pruneLogged, ChatHistoryService.prune, List.map_drop, List.filter_map,
    List.length_map]
  rfl

theorem pruneLogged_sublist (messages : List LoggedMessage) (retention : HistoryRetention)
    (now : Nat) : (pruneLogged messages retention now).Sublist messages :=
  (List.drop_sublist _ _).trans List.filter_sublist

/-- What `loadChannelUiPrefs` shows in a record. -/
structure ChannelUi where
  sortedAlpha : Bool
  eventSounds : Bool
  favorites : List Nat
  deriving DecidableEq, Repr

/-- What is stored of it. -/
structure ChannelUiPrefs where
  sortedAlpha : String → Bool
  eventSounds : Bool
  favorites : String → List Nat

def ChannelUiPrefs.load (prefs : ChannelUiPrefs) (serverUid : String) : ChannelUi where
  sortedAlpha := serverUid != "" && prefs.sortedAlpha serverUid
  eventSounds := prefs.eventSounds
  favorites := if serverUid = "" then [] else prefs.favorites serverUid

structure SessionRecord (ρ : Type*) where
  serverUid : String
  nickname : String
  inputMuted : Bool
  outputMuted : Bool
  messages : List LoggedMessage
  unreadByThread : List (ChatThreadKey × Nat)
  chatHistoryEnabled : Bool
  chatRetention : HistoryRetention
  channelUi : ChannelUi
  others : ρ
  deriving DecidableEq, Repr

namespace SessionRecord

variable {ρ : Type*}

def new [Inhabited ρ] : SessionRecord ρ where
  serverUid := ""
  nickname := ""
  inputMuted := false
  outputMuted := false
  messages := []
  unreadByThread := []
  chatHistoryEnabled := false
  chatRetention := .thirtyDays
  channelUi := ⟨false, false, []⟩
  others := default

/-- The history is on, and there is a server to keep it for. -/
def keepsHistory (record : SessionRecord ρ) : Bool :=
  record.chatHistoryEnabled && record.serverUid != ""

def countUnread (record : SessionRecord ρ) (key : ChatThreadKey) : SessionRecord ρ :=
  let counters := record.unreadByThread
  match counters.lookup key with
  | none => { record with unreadByThread := counters ++ [(key, 1)] }
  | some count =>
    { record with
      unreadByThread := counters.map fun c => if c.1 = key then (key, count + 1) else c }

def countRead (record : SessionRecord ρ) (key : ChatThreadKey) : SessionRecord ρ :=
  { record with unreadByThread := record.unreadByThread.filter (·.1 ≠ key) }

/-- Counting concerns nothing but the counters. -/
theorem countUnread_eq (record : SessionRecord ρ) (key : ChatThreadKey) :
    ∃ unreadByThread, record.countUnread key = { record with unreadByThread } := by
  unfold countUnread
  dsimp only
  split <;> exact ⟨_, rfl⟩

end SessionRecord

/-- What a save writes. -/
structure HistorySnapshot where
  serverUid : String
  messages : List LoggedMessage
  retention : HistoryRetention
  deriving DecidableEq, Repr

def SessionRecord.snapshot {ρ : Type*} (record : SessionRecord ρ) : HistorySnapshot :=
  ⟨record.serverUid, record.messages, record.chatRetention⟩

/-- The name of its file. -/
def HistorySnapshot.name (snapshot : HistorySnapshot) : String :=
  ChatHistoryService.fileNameFor snapshot.serverUid

/-- `_restoreHistory` after its first line: the record that it began with, and the file. -/
structure HistoryRestoreTask (ρ : Type*) where
  session : ConnectionId
  table : TsConnectionState
  record : SessionRecord ρ
  file : List LoggedMessage
  deriving DecidableEq, Repr

/-- A restore that has written: the record it found, what it restored and what it left. -/
structure RestoreOutcome (ρ : Type*) where
  stored : List LoggedMessage
  found : TsConnectionState × SessionRecord ρ
  left : TsConnectionState × SessionRecord ρ
  deriving DecidableEq, Repr

structure HistoryApp (ρ : Type*) where
  app : Notifier
  /-- The engine gives no connection id twice. -/
  issued : List ConnectionId
  records : ConnectionId → SessionRecord ρ
  openThread : ConnectionId → Option ChatThreadKey
  /-- What a waiting save has captured. It goes on waiting when its session is removed. -/
  historySaveTimer : LinkedMap ConnectionId HistorySnapshot
  restores : List (HistoryRestoreTask ρ)
  /-- The history files by name. -/
  files : String → List LoggedMessage
  prefs : ChannelUiPrefs
  clock : Nat
  /-- The number of messages so far. -/
  logged : Nat
  /-- All restores that have written so far. -/
  outcomes : List (RestoreOutcome ρ)
  /-- All messages that a session had at its disconnect, with the name of its file. Clearing the
  history forgets them. -/
  flushed : List (String × LoggedMessage)
  /-- What retention and the entry cap have kept out of a file or of what was restored from it. -/
  dropped : List (String × LoggedMessage)

namespace HistoryApp

variable {ρ : Type*}

/-- The first start of the app. -/
def build [Inhabited ρ] : HistoryApp ρ where
  app := .build
  issued := []
  records _ := .new
  openThread _ := none
  historySaveTimer := .empty
  restores := []
  files _ := []
  prefs := ⟨fun _ => false, false, fun _ => []⟩
  clock := 0
  logged := 0
  outcomes := []
  flushed := []
  dropped := []

section Records

variable (s : HistoryApp ρ) (cid : ConnectionId)

/-- `_setSession` where only fields beyond the table change. -/
def setRecord (record : SessionRecord ρ) : HistoryApp ρ :=
  { s with app := s.app.writeSession cid, records := Function.update s.records cid record }

/-- Changes the record of every session. -/
def changeAll (change : SessionRecord ρ → SessionRecord ρ) : HistoryApp ρ :=
  { s with
    records := fun cid =>
      if cid ∈ s.app.sessions.keys then change (s.records cid) else s.records cid }

end Records

section History

variable (s : HistoryApp ρ) (cid : ConnectionId)

/-- Notes what of a list of messages is not kept for its file. -/
def drop (name : String) (messages kept : List LoggedMessage) : HistoryApp ρ :=
  { s with dropped := s.dropped ++ (messages.filter (· ∉ kept)).map fun m => (name, m) }

def save (snapshot : HistorySnapshot) : HistoryApp ρ :=
  if snapshot.serverUid = "" then s
  else
    let pruned := pruneLogged snapshot.messages snapshot.retention s.clock
    { s.drop snapshot.name snapshot.messages pruned with
      files := Function.update s.files snapshot.name pruned }

def scheduleHistorySave : HistoryApp ρ :=
  let record := s.records cid
  if record.keepsHistory && (s.app.rt.find cid).isSome then
    { s with historySaveTimer := s.historySaveTimer.insert cid record.snapshot }
  else s

/-- The timer of `_scheduleHistorySave` fires. -/
def fireSaveTimer : Option (HistoryApp ρ) :=
  (s.historySaveTimer.find cid).map
    { s with historySaveTimer := s.historySaveTimer.erase cid }.save

/-- `_restoreHistory` up to its wait. -/
def beginRestore : HistoryApp ρ :=
  let record := s.records cid
  if record.keepsHistory then
    let file := s.files record.snapshot.name
    { s with restores := s.restores ++ [⟨cid, s.app.stateOf cid, record, file⟩] }
  else s

/-- What a restore finds in its file. -/
def storedFor (task : HistoryRestoreTask ρ) : List LoggedMessage :=
  pruneLogged task.file task.record.chatRetention s.clock

/-- `_restoreHistory` after its wait. -/
def endRestore (task : HistoryRestoreTask ρ) : HistoryApp ρ :=
  let stored := s.storedFor task
  let s := s.drop task.record.snapshot.name task.file stored
  if stored = [] then s
  else
    let record := { task.record with messages := stored ++ task.record.messages }
    { s with
      app := s.app.setSession task.session task.table
      records := Function.update s.records task.session record
      outcomes := s.outcomes ++
        [⟨stored, (s.app.stateOf task.session, s.records task.session), (task.table, record)⟩] }

def finishRestore (i : Nat) : Option (HistoryApp ρ) :=
  s.restores[i]?.map { s with restores := s.restores.eraseIdx i }.endRestore

/-- The sessions whose timers a loop over all sessions reaches. -/
def reachesTimer : Bool := cid ∈ s.app.sessions.keys && (s.app.rt.find cid).isSome

def clearChatHistory : HistoryApp ρ :=
  { s with
    historySaveTimer := s.historySaveTimer.filter fun cid _ => !s.reachesTimer cid
    files := fun _ => []
    flushed := [] }

def setChatHistoryEnabled (enabled : Bool) : HistoryApp ρ :=
  let t := s.changeAll fun record => { record with chatHistoryEnabled := enabled }
  if enabled then t else t.clearChatHistory

def setChatRetention (retention : HistoryRetention) : HistoryApp ρ :=
  let t := s.changeAll fun record => { record with chatRetention := retention }
  s.app.sessions.keys.foldl (fun u cid => u.scheduleHistorySave cid) t

end History

section Events

variable (s : HistoryApp ρ) (cid : ConnectionId)

/-- Events of a session that was removed are dropped. -/
def hears : Bool := cid == 0 || (s.app.rt.find cid).isSome

/-- Gives a message its place in the run. -/
def log (message : ChatMessage) : LoggedMessage := ⟨s.logged, message⟩

def append (record : SessionRecord ρ) (message : ChatMessage) : HistoryApp ρ :=
  { s.setRecord cid { record with messages := record.messages ++ [s.log message] } with
    logged := s.logged + 1 }

def markUnread (key : ChatThreadKey) : HistoryApp ρ :=
  if s.openThread cid = some key then s else s.setRecord cid ((s.records cid).countUnread key)

/-- A line of the server in its own thread. -/
def pushSystem (text : String) : HistoryApp ρ :=
  let record := s.records cid
  if text = "" then s
  else
    s.append cid record
      { id := record.messages.length
        fromClient := ""
        fromClientId := 0
        targetMode := 3
        message := text
        timestamp := s.clock
        peerId := none
        peerName := none
        partner := none }

/-- Nothing to wait for: `connect` has loaded the preferences. -/
def loadChannelUiPrefs : HistoryApp ρ :=
  let record := s.records cid
  s.setRecord cid { record with channelUi := s.prefs.load record.serverUid }

/-- The lines of `_maybeHydrateServerMessages`. -/
def hydrateServerMessages (data : ConnectedEvent) (welcomeMessage : String) : HistoryApp ρ :=
  let s := s.pushSystem cid welcomeMessage
  if data.hostMessageMode = 1 then s.pushSystem cid data.hostMessage else s

def handleConnected (data : ConnectedEvent) (serverUid welcomeMessage : String) : HistoryApp ρ :=
  if !s.hears cid then s
  else
    let s := s.setRecord cid { s.records cid with serverUid }
    let s := s.hydrateServerMessages cid data welcomeMessage
    let s := { s with app := s.app.handleConnected cid data }
    (s.beginRestore cid).loadChannelUiPrefs cid

/-- `text_message`; `ignored` is what the contact book says about the sender. -/
def handleTextMessage (fromClient : String) (fromClientId targetMode : Nat) (message : String)
    (ignored : Bool) : HistoryApp ρ :=
  if !s.hears cid || ignored then s
  else
    let record := s.records cid
    let toUs := targetMode = 1
    let msg : ChatMessage :=
      { id := record.messages.length
        fromClient
        fromClientId
        targetMode
        message
        timestamp := s.clock
        peerId := if toUs then some fromClientId else none
        peerName := if toUs then some fromClient else none
        partner := none }
    let t := s.append cid record msg
    let t := if fromClientId = (s.app.stateOf cid).ownClientId then t
      else t.markUnread cid msg.threadKey
    t.scheduleHistorySave cid

def noteFlush (snapshot : HistorySnapshot) : HistoryApp ρ :=
  { s with flushed := s.flushed ++ snapshot.messages.map fun m => (snapshot.name, m) }

/-- Saves what a session has when it is disconnected. -/
def flush (record : SessionRecord ρ) : HistoryApp ρ :=
  if record.keepsHistory then (s.noteFlush record.snapshot).save record.snapshot else s

def handleDisconnected [Inhabited ρ] (expected : Bool) (draw : Draw) : HistoryApp ρ :=
  -- While the session is connecting the event is a stale one.
  if (s.app.stateOf cid).connecting || (s.app.rt.find cid).isNone then s
  else
    let record := s.records cid
    let t := s.flush record
    { t with
      app := t.app.handleDisconnected cid expected ⟨s.clock, draw⟩
      records := Function.update t.records cid
        { SessionRecord.new with
          chatHistoryEnabled := record.chatHistoryEnabled
          chatRetention := record.chatRetention } }

end Events

section Actions

variable (s : HistoryApp ρ) (cid : ConnectionId)

def sendPrivateMessage (clientId : Nat) (text : String) (queued : Bool)
    (peerName : Option String) : HistoryApp ρ :=
  let record := s.records cid
  let st := s.app.stateOf cid
  if !st.connected || text = "" then s
  else if !queued then s.setRecord cid record
  else
    s.append cid record
      { id := record.messages.length
        fromClient := record.nickname
        fromClientId := st.ownClientId
        targetMode := 1
        message := text
        timestamp := s.clock
        peerId := some clientId
        peerName
        partner := none }

def toggleInputMute : HistoryApp ρ :=
  s.setRecord cid { s.records cid with inputMuted := !(s.records cid).inputMuted }

def toggleOutputMute : HistoryApp ρ :=
  s.setRecord cid { s.records cid with outputMuted := !(s.records cid).outputMuted }

def setFullMute (muted : Bool) : HistoryApp ρ :=
  let record := s.records cid
  if record.inputMuted = muted && record.outputMuted = muted then s
  else s.setRecord cid { record with inputMuted := muted, outputMuted := muted }

def noteThread (key : Option ChatThreadKey) : HistoryApp ρ :=
  if (s.app.rt.find cid).isSome then
    { s with openThread := Function.update s.openThread cid key }
  else s

/-- `openThread` -/
def showThread (key : ChatThreadKey) : HistoryApp ρ :=
  let s := s.noteThread cid (some key)
  let record := s.records cid
  if (record.unreadByThread.lookup key).getD 0 = 0 then s
  else s.setRecord cid (record.countRead key)

def setNickname (nickname : String) : HistoryApp ρ :=
  if (s.app.stateOf cid).connected then s.setRecord cid { s.records cid with nickname } else s

/-- An action or an event that writes other fields of a record. -/
def setOthers (others : ρ) : HistoryApp ρ := s.setRecord cid { s.records cid with others }

def toggleChannelFavorite (channelId : Nat) : HistoryApp ρ :=
  let record := s.records cid
  let present := channelId ∈ record.channelUi.favorites
  let favorites := record.channelUi.favorites.filter (· ≠ channelId)
  let favorites := if present then favorites else favorites ++ [channelId]
  let stored := (s.prefs.favorites record.serverUid).filter (· ≠ channelId)
  let stored := if present then stored else stored ++ [channelId]
  let prefs := if record.serverUid = "" then s.prefs
    else { s.prefs with favorites := Function.update s.prefs.favorites record.serverUid stored }
  { s.setRecord cid { record with channelUi := { record.channelUi with favorites } } with prefs }

def setChannelSortAlpha (alpha : Bool) : HistoryApp ρ :=
  let record := s.records cid
  let prefs := if record.serverUid = "" then s.prefs
    else { s.prefs with sortedAlpha := Function.update s.prefs.sortedAlpha record.serverUid alpha }
  { s.setRecord cid { record with channelUi := { record.channelUi with sortedAlpha := alpha } } with
    prefs }

def setEventSounds (enabled : Bool) : HistoryApp ρ :=
  { s.changeAll fun record =>
      { record with channelUi := { record.channelUi with eventSounds := enabled } } with
    prefs := { s.prefs with eventSounds := enabled } }

/-- A step of the connection table. A session that is opened or removed has nothing of an
earlier one. -/
def tableStep [Inhabited ρ] (action : Notifier.TabAction) : Option (HistoryApp ρ) :=
  match action with
  | .table (.event _ (.connected _) _) | .table (.event _ (.disconnected _) _) => none
  | .table (.completeConnect call (some cid)) =>
    if cid ∈ s.issued then none
    else
      (s.app.step (.completeConnect call (some cid))).map fun app =>
        { s with app, issued := s.issued ++ [cid] }
  | .table (.cancelConnect cid) =>
    some
      { s with
        app := s.app.cancelConnect cid
        records := Function.update s.records cid .new
        openThread := Function.update s.openThread cid none }
  | action => (s.app.tabStep action).map fun app => { s with app }

/-- The process ends, and the app starts again. -/
def restart [Inhabited ρ] : HistoryApp ρ :=
  { build with
    app := { Notifier.build with autoReconnectPref := s.app.autoReconnectPref }
    files := s.files
    prefs := s.prefs
    clock := s.clock
    logged := s.logged
    outcomes := s.outcomes
    flushed := s.flushed
    dropped := s.dropped }

end Actions

inductive Action (ρ : Type*) where
  | table (action : Notifier.TabAction)
  | connected (cid : ConnectionId) (data : ConnectedEvent) (serverUid welcomeMessage : String)
  | disconnected (cid : ConnectionId) (expected : Bool) (draw : Draw)
  | textMessage (cid : ConnectionId) (fromClient : String) (fromClientId targetMode : Nat)
      (message : String) (ignored : Bool)
  | sendPrivateMessage (cid : ConnectionId) (clientId : Nat) (text : String) (queued : Bool)
      (peerName : Option String)
  | toggleInputMute (cid : ConnectionId)
  | toggleOutputMute (cid : ConnectionId)
  | setFullMute (cid : ConnectionId) (muted : Bool)
  | openThread (cid : ConnectionId) (key : ChatThreadKey)
  | closeThreads (cid : ConnectionId)
  | setNickname (cid : ConnectionId) (nickname : String)
  | setOthers (cid : ConnectionId) (others : ρ)
  | toggleChannelFavorite (cid : ConnectionId) (channelId : Nat)
  | setChannelSortAlpha (cid : ConnectionId) (alpha : Bool)
  | setEventSounds (enabled : Bool)
  | finishRestore (i : Nat)
  | fireSaveTimer (cid : ConnectionId)
  | loadHistoryPreferences (enabled : Bool) (retention : HistoryRetention)
  | setChatHistoryEnabled (enabled : Bool)
  | setChatRetention (retention : HistoryRetention)
  | clearChatHistory
  | tick (elapsed : Nat)
  | restart

def step [Inhabited ρ] (s : HistoryApp ρ) : Action ρ → Option (HistoryApp ρ)
  | .table action => s.tableStep action
  | .connected cid data serverUid welcomeMessage =>
    some (s.handleConnected cid data serverUid welcomeMessage)
  | .disconnected cid expected draw => some (s.handleDisconnected cid expected draw)
  | .textMessage cid fromClient fromClientId targetMode message ignored =>
    some (s.handleTextMessage cid fromClient fromClientId targetMode message ignored)
  | .sendPrivateMessage cid clientId text queued peerName =>
    some (s.sendPrivateMessage cid clientId text queued peerName)
  | .toggleInputMute cid => some (s.toggleInputMute cid)
  | .toggleOutputMute cid => some (s.toggleOutputMute cid)
  | .setFullMute cid muted => some (s.setFullMute cid muted)
  | .openThread cid key => some (s.showThread cid key)
  | .closeThreads cid => some (s.noteThread cid none)
  | .setNickname cid nickname => some (s.setNickname cid nickname)
  | .setOthers cid others => some (s.setOthers cid others)
  | .toggleChannelFavorite cid channelId => some (s.toggleChannelFavorite cid channelId)
  | .setChannelSortAlpha cid alpha => some (s.setChannelSortAlpha cid alpha)
  | .setEventSounds enabled => some (s.setEventSounds enabled)
  | .finishRestore i => s.finishRestore i
  | .fireSaveTimer cid => s.fireSaveTimer cid
  | .loadHistoryPreferences enabled retention =>
    some (s.changeAll fun record =>
      { record with chatHistoryEnabled := enabled, chatRetention := retention })
  | .setChatHistoryEnabled enabled => some (s.setChatHistoryEnabled enabled)
  | .setChatRetention retention => some (s.setChatRetention retention)
  | .clearChatHistory => some s.clearChatHistory
  | .tick elapsed => some { s with clock := s.clock + elapsed }
  | .restart => some s.restart

end HistoryApp

end Nek0.Source
