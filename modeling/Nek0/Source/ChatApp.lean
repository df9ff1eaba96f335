import Mathlib.Logic.Function.Basic
import Nek0.Source.ChatThreads
import Nek0.Source.Notifier

/-!
# Conversations in the app

The chat part of `TsState` in `lib/models/ts_state.dart` for all sessions, the history files,
and the chat panel of `lib/widgets/chat_panel.dart`. Who has a client id is up to the
server and can change between any two messages, in a session and from one session to the
next: a private message comes with the person who sent it, or with the one who had the id
when the server delivered it.
-/

namespace Nek0.Source

structure ChatClient where
  id : Nat
  nickname : String
  deriving DecidableEq, Repr

structure ChatState where
  connected : Bool
  serverUid : String
  nickname : String
  ownClientId : Nat
  clients : List ChatClient
  messages : List ChatMessage
  unreadByThread : ChatThreadKey → Nat
  chatHistoryEnabled : Bool
  chatRetention : HistoryRetention

def ChatState.initial : ChatState where
  connected := false
  serverUid := ""
  nickname := ""
  ownClientId := 0
  clients := []
  messages := []
  unreadByThread := fun _ => 0
  chatHistoryEnabled := false
  chatRetention := .thirtyDays

/-- `_restoreHistory` after its first line: the state it began with, and what it has read. -/
structure HistoryRestore where
  st : ChatState
  stored : Option (List ChatMessage)

structure ChatSession where
  st : ChatState
  openThread : Option ChatThreadKey
  /-- The state that a waiting save has captured. -/
  historySaveTimer : Option ChatState
  restores : List HistoryRestore

def ChatSession.new : ChatSession := ⟨.initial, none, none, []⟩

/-- A message that the user sent from the panel, and the thread he saw. -/
structure PanelSend where
  shown : ChatThread
  destination : ChatThreadKey
  partner : Option String
  deriving DecidableEq, Repr

/-- The chat panel while it is open. -/
structure ChatPanel where
  connectionId : ConnectionId
  current : ChatThreadKey
  deriving DecidableEq, Repr

structure ChatApp where
  keys : List ConnectionId
  sessions : ConnectionId → ChatSession
  /-- The history files by name. -/
  files : String → List ChatMessage
  panel : Option ChatPanel
  /-- All messages sent from the panel so far. -/
  sent : List PanelSend

namespace ChatApp

def initial : ChatApp := ⟨[], fun _ => .new, fun _ => [], none, []⟩

variable (s : ChatApp) (cid : ConnectionId)

def setSession (session : ChatSession) : ChatApp :=
  { s with sessions := Function.update s.sessions cid session }

def setState (st : ChatState) : ChatApp :=
  s.setSession cid { s.sessions cid with st }

section History

/-- `ChatHistoryService.save` -/
def save (st : ChatState) (now : Nat) : ChatApp :=
  if st.serverUid = "" then s
  else
    { s with
      files := Function.update s.files (ChatHistoryService.fileNameFor st.serverUid)
        (ChatHistoryService.prune st.messages st.chatRetention now) }

/-- The history is on, and there is a server to keep it for. -/
def keepsHistory (st : ChatState) : Bool := st.chatHistoryEnabled && st.serverUid != ""

def scheduleHistorySave : ChatApp :=
  let session := s.sessions cid
  if keepsHistory session.st then
    s.setSession cid { session with historySaveTimer := some session.st }
  else s

/-- The timer of `_scheduleHistorySave` fires. -/
def fireSaveTimer (now : Nat) : Option ChatApp :=
  (s.sessions cid).historySaveTimer.map fun st =>
    (s.setSession cid { s.sessions cid with historySaveTimer := none }).save st now

/-- `ChatHistoryService.load` in a restore. -/
def loadHistory (i now : Nat) : Option ChatApp :=
  let session := s.sessions cid
  session.restores[i]?.map fun restore =>
    let file := s.files (ChatHistoryService.fileNameFor restore.st.serverUid)
    let stored := ChatHistoryService.prune file restore.st.chatRetention now
    s.setSession cid { session with restores := session.restores.set i ⟨restore.st, some stored⟩ }

/-- The end of a restore. -/
def finishRestore (i : Nat) : Option ChatApp :=
  let session := s.sessions cid
  match session.restores[i]? with
  | some ⟨st, some stored⟩ =>
    let session := { session with restores := session.restores.eraseIdx i }
    some <|
      if stored = [] then s.setSession cid session
      else s.setSession cid { session with st := { st with messages := stored ++ st.messages } }
  | _ => none

def loadHistoryPreferences (enabled : Bool) (retention : HistoryRetention) : ChatApp :=
  { s with
    sessions := fun cid =>
      if cid ∈ s.keys then
        { s.sessions cid with
          st := { (s.sessions cid).st with
            chatHistoryEnabled := enabled, chatRetention := retention } }
      else s.sessions cid }

def cancelSaves : ChatApp :=
  { s with
    sessions := fun cid =>
      if cid ∈ s.keys then { s.sessions cid with historySaveTimer := none } else s.sessions cid }

def clearChatHistory : ChatApp := { s.cancelSaves with files := fun _ => [] }

def setChatHistoryEnabled (enabled : Bool) : ChatApp :=
  let t : ChatApp :=
    { s with
      sessions := fun cid =>
        if cid ∈ s.keys then
          { s.sessions cid with st := { (s.sessions cid).st with chatHistoryEnabled := enabled } }
        else s.sessions cid }
  if enabled then t else t.clearChatHistory

def setChatRetention (retention : HistoryRetention) : ChatApp :=
  s.keys.foldl
    (fun s cid =>
      (s.setState cid { (s.sessions cid).st with chatRetention := retention }).scheduleHistorySave
        cid)
    s

end History

section Session

/-- The nickname of the user goes to the engine, not into the state. -/
def connect : Option ChatApp :=
  if cid ∈ s.keys then none
  else some { s.setSession cid .new with keys := s.keys ++ [cid] }

/-- `setNickname` with a name that is trimmed; `queued` is what the engine says to it. -/
def setNickname (nickname : String) (queued : Bool) : ChatApp :=
  let st := (s.sessions cid).st
  if !st.connected || !queued then s else s.setState cid { st with nickname }

def handleConnected (serverUid : String) (ownClientId : Nat) (clients : List ChatClient) :
    ChatApp :=
  let session := s.sessions cid
  let st := { session.st with connected := true, serverUid, ownClientId, clients }
  let restores := if keepsHistory st then session.restores ++ [⟨st, none⟩] else session.restores
  s.setSession cid { session with st, restores }

def handleRoster (clients : List ChatClient) : ChatApp :=
  s.setState cid { (s.sessions cid).st with clients }

def markUnread (key : ChatThreadKey) : ChatApp :=
  let session := s.sessions cid
  if session.openThread = some key then s
  else
    let counters := Function.update session.st.unreadByThread key
      (session.st.unreadByThread key + 1)
    s.setState cid { session.st with unreadByThread := counters }

/-- `text_message`; `ignored` is what the contact book says about the sender. -/
def handleTextMessage (fromClient : String) (fromClientId targetMode : Nat) (message : String)
    (now : Nat) (ignored : Bool) (partner : Option String) : ChatApp :=
  let st := (s.sessions cid).st
  if ignored then s
  else
    let toUs := targetMode = 1
    let msg : ChatMessage :=
      { id := st.messages.length
        fromClient
        fromClientId
        targetMode
        message
        timestamp := now
        peerId := if toUs then some fromClientId else none
        peerName := if toUs then some fromClient else none
        partner := if toUs then partner else none }
    let t := s.setState cid { st with messages := st.messages ++ [msg] }
    let t := if fromClientId = st.ownClientId then t else t.markUnread cid msg.threadKey
    t.scheduleHistorySave cid

def handleDisconnected (now : Nat) : ChatApp :=
  let session := s.sessions cid
  let st := session.st
  let t := if keepsHistory st then s.save st now else s
  t.setSession cid
    { session with
      st := { ChatState.initial with
        chatHistoryEnabled := st.chatHistoryEnabled, chatRetention := st.chatRetention } }

def sendPrivateMessage (clientId : Nat) (text : String) (queued : Bool) (now : Nat)
    (partner : Option String) : ChatApp :=
  let st := (s.sessions cid).st
  if !st.connected || text = "" || !queued then s
  else
    let peer := st.clients.find? (·.id = clientId)
    let msg : ChatMessage :=
      { id := st.messages.length
        fromClient := st.nickname
        fromClientId := st.ownClientId
        targetMode := 1
        message := text
        timestamp := now
        peerId := some clientId
        peerName := peer.map (·.nickname)
        partner }
    s.setState cid { st with messages := st.messages ++ [msg] }

end Session

section Panel

def showThread (key : ChatThreadKey) : ChatApp :=
  let session := s.sessions cid
  s.setSession cid
    { session with
      openThread := some key
      st := { session.st with unreadByThread := Function.update session.st.unreadByThread key 0 } }

def openPanel (initialThread : Option ChatThreadKey) : ChatApp :=
  let current := initialThread.getD .channel
  { s.showThread cid current with panel := some ⟨cid, current⟩ }

/-- `_selectThread` of a tab. -/
def selectThread (key : ChatThreadKey) : Option ChatApp :=
  match s.panel with
  | none => none
  | some panel =>
    let st := (s.sessions panel.connectionId).st
    if key ∈ ChatThread.keys st.messages then
      some { s.showThread panel.connectionId key with panel := some { panel with current := key } }
    else none

def closePanel : Option ChatApp :=
  s.panel.map fun panel =>
    { s.setSession panel.connectionId { s.sessions panel.connectionId with openThread := none } with
      panel := none }

/-- `_sendMessage` of a text that is trimmed. -/
def sendMessage (text : String) (queued : Bool) (now : Nat) (partner : Option String) :
    Option ChatApp :=
  match s.panel with
  | none => none
  | some ⟨cid, current⟩ =>
    let st := (s.sessions cid).st
    let t :=
      match current.peerId with
      | some peerId => s.sendPrivateMessage cid peerId text queued now partner
      | none => s
    if text = "" || !st.connected || !queued then some t
    else
      let shown := ChatThread.active st.messages st.unreadByThread current
      let partner := if current.isPrivate then partner else none
      some { t with sent := t.sent ++ [⟨shown, current, partner⟩] }

end Panel

inductive Action where
  | connect (cid : ConnectionId)
  | setNickname (cid : ConnectionId) (nickname : String) (queued : Bool)
  | connected (cid : ConnectionId) (serverUid : String) (ownClientId : Nat)
      (clients : List ChatClient)
  | roster (cid : ConnectionId) (clients : List ChatClient)
  | textMessage (cid : ConnectionId) (fromClient : String) (fromClientId targetMode : Nat)
      (message : String) (now : Nat) (ignored : Bool) (partner : Option String)
  | disconnected (cid : ConnectionId) (now : Nat)
  | fireSaveTimer (cid : ConnectionId) (now : Nat)
  | loadHistory (cid : ConnectionId) (i now : Nat)
  | finishRestore (cid : ConnectionId) (i : Nat)
  | loadHistoryPreferences (enabled : Bool) (retention : HistoryRetention)
  | setChatHistoryEnabled (enabled : Bool)
  | setChatRetention (retention : HistoryRetention)
  | clearChatHistory
  | openPanel (cid : ConnectionId) (initialThread : Option ChatThreadKey)
  | selectThread (key : ChatThreadKey)
  | closePanel
  | sendMessage (text : String) (queued : Bool) (now : Nat) (partner : Option String)

def step : Action → Option ChatApp
  | .connect cid => s.connect cid
  | .setNickname cid nickname queued => some (s.setNickname cid nickname queued)
  | .connected cid serverUid ownClientId clients =>
    some (s.handleConnected cid serverUid ownClientId clients)
  | .roster cid clients => some (s.handleRoster cid clients)
  | .textMessage cid fromClient fromClientId targetMode message now ignored partner =>
    some (s.handleTextMessage cid fromClient fromClientId targetMode message now ignored partner)
  | .disconnected cid now => some (s.handleDisconnected cid now)
  | .fireSaveTimer cid now => s.fireSaveTimer cid now
  | .loadHistory cid i now => s.loadHistory cid i now
  | .finishRestore cid i => s.finishRestore cid i
  | .loadHistoryPreferences enabled retention => some (s.loadHistoryPreferences enabled retention)
  | .setChatHistoryEnabled enabled => some (s.setChatHistoryEnabled enabled)
  | .setChatRetention retention => some (s.setChatRetention retention)
  | .clearChatHistory => some s.clearChatHistory
  | .openPanel cid initialThread => some (s.openPanel cid initialThread)
  | .selectThread key => s.selectThread key
  | .closePanel => s.closePanel
  | .sendMessage text queued now partner => s.sendMessage text queued now partner

end ChatApp

end Nek0.Source
