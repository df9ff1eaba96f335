import Mathlib.Data.List.Dedup
import Mathlib.Logic.Function.Basic
import Nek0.Source.EventLoop
import Nek0.Source.VoiceSender

/-!
# A connected session and the people on its server

The clients of a server and their ids, the book that the client library keeps of them, the
copy that `handle_control_item` takes of the book, and what the app does with the copy when
it polls: `_handleEvent`, the roster part of `_pollEvents`, and the whisper panel. The
library rebuilds a lost connection by itself and gets a new client id then. Messages of
the server reach the library in order, and a turn of the event loop hands its items on in
an order of its own.
-/

namespace Nek0.Source

/-- Somebody on the server. The id is free again once he has left. -/
structure ServerClient where
  id : UInt16
  uid : String
  deriving DecidableEq, Repr

inductive ServerMessage where
  | clientEnterView (client : ServerClient)
  | clientLeftView (id : UInt16)
  deriving DecidableEq, Repr

/-- `data::Connection` -/
structure Book where
  ownClient : UInt16
  clients : List ServerClient
  channels : List UInt64
  deriving DecidableEq, Repr

namespace Book

/-- The book that a connection begins with. -/
def ofInitServer (ownClient : UInt16) : Book := ⟨ownClient, [], []⟩

def handleCommand (book : Book) : ServerMessage → Book
  | .clientEnterView client =>
    { book with clients := client :: book.clients.filter (·.id ≠ client.id) }
  | .clientLeftView id => { book with clients := book.clients.filter (·.id ≠ id) }

end Book

namespace LiveSession

structure TsClient where
  id : UInt32
  uid : String
  deriving DecidableEq, Repr

structure Roster where
  clients : List TsClient
  channels : List UInt32
  deriving DecidableEq, Repr

/-- `refresh_from_book` -/
def refreshFromBook (book : Book) : Roster where
  clients := book.clients.map fun client => ⟨client.id.toUInt32, client.uid⟩
  channels := book.channels.map (·.toUInt32)

inductive TsEvent where
  | channelsUpdated
  | error
  deriving DecidableEq, Repr

/-- The state of the session in the app. -/
structure TsConnectionState where
  ownClientId : UInt32
  roster : Roster
  whisperActive : Bool
  whisperTargetClientIds : List UInt32
  whisperTargetChannelIds : List UInt32
  deriving DecidableEq, Repr

/-- The whisper panel while it is open: which rows are ticked. -/
structure WhisperPanel where
  clients : List UInt32
  channels : List UInt32
  deriving DecidableEq, Repr

/-- A packet, who was on the server when it was sent, and whom the user had ticked last
under each id. -/
structure Sending where
  packet : VoicePacket
  people : List ServerClient
  chosen : UInt16 → Option String

end LiveSession

structure LiveSession where
  ownUid : String
  people : List ServerClient
  /-- On the way to the library, oldest first. -/
  wire : List ServerMessage
  /-- There is no book while the library connects. -/
  book : Option Book
  /-- Polled and not yet handled. -/
  items : List StreamItem
  /-- The voice part of `TsState`, with `own_client_id`. -/
  voice : VoiceSender
  roster : LiveSession.Roster
  events : List LiveSession.TsEvent
  app : LiveSession.TsConnectionState
  foreground : Bool
  panel : Option LiveSession.WhisperPanel
  chosen : UInt16 → Option String
  /-- The ids whose client has left since the user ticked them. -/
  departed : List UInt16
  /-- All packets so far. -/
  sent : List LiveSession.Sending

namespace LiveSession

/-- After `do_connect` and the `connected` event of the app. -/
def new (ownUid : String) (people : List ServerClient) (wire : List ServerMessage) (book : Book) :
    LiveSession where
  ownUid
  people
  wire
  book := some book
  items := []
  voice := .new book.ownClient.toUInt32
  roster := refreshFromBook book
  events := []
  app := ⟨book.ownClient.toUInt32, refreshFromBook book, false, [], []⟩
  foreground := true
  panel := none
  chosen := fun _ => none
  departed := []
  sent := []

variable (s : LiveSession)

section Server

/-- A client gets an id that is free. -/
def enters (client : ServerClient) : Option LiveSession :=
  if s.people.any (·.id = client.id) then none
  else
    some { s with
      people := client :: s.people
      wire := if s.book.isSome then s.wire ++ [.clientEnterView client] else s.wire }

def leaves (id : UInt16) : LiveSession :=
  { s with
    people := s.people.filter (·.id ≠ id)
    wire := if s.book.isSome then s.wire ++ [.clientLeftView id] else s.wire
    departed := id :: s.departed }

end Server

section Library

/-- The library handles the next message of the server. -/
def deliver : Option LiveSession :=
  match s.book, s.wire with
  | some book, message :: wire =>
    some { s with
      wire, book := some (book.handleCommand message), items := s.items ++ [.bookEvents] }
  | _, _ => none

/-- The channels of the book change. -/
def changeChannels (channels : List UInt64) : Option LiveSession :=
  s.book.map fun book =>
    { s with book := some { book with channels }, items := s.items ++ [.bookEvents] }

/-- Any other item. -/
def receiveItem (item : StreamItem) : Option LiveSession :=
  if item = .bookEvents ∨ item = .disconnectedTemporarily then none
  else some { s with items := s.items ++ [item] }

/-- The connection is lost, and the library builds it anew. -/
def loseConnection : Option LiveSession :=
  s.book.map fun _ =>
    { s with book := none, wire := [], items := s.items ++ [.disconnectedTemporarily] }

/-- `InitServer` of the new connection gives an id that is free and tells who is there. -/
def reconnect (ownClient : UInt16) : Option LiveSession :=
  if s.book.isSome ∨ s.people.any (·.id = ownClient) then none
  else
    let people := ⟨ownClient, s.ownUid⟩ :: s.people
    some { s with
      people
      book := some (.ofInitServer ownClient)
      wire := people.map .clientEnterView
      items := s.items ++ [.bookEvents] }

end Library

section Engine

/-- `handle_control_item` -/
def handleControlItem (item : StreamItem) : LiveSession :=
  match item with
  | .bookEvents =>
    match s.book with
    | some book =>
      { s with roster := refreshFromBook book, events := s.events ++ [.channelsUpdated] }
    | none => s
  | .disconnectedTemporarily => { s with events := s.events ++ [.error] }
  | _ => s

def handleItem (i : Nat) : Option LiveSession :=
  s.items[i]?.map fun item => { s with items := s.items.eraseIdx i }.handleControlItem item

/-- The client that `ts_move_to_channel` moves. -/
def moveToChannel : UInt16 := s.voice.ownClientId.toUInt16

/-- `ts_kick_client` up to the queue. -/
def kickClient (clientId : UInt16) : Bool := clientId.toUInt32 ≠ s.voice.ownClientId

/-- A command of the microphone. Nothing can be sent while the library connects. -/
def sendAudio (data : List UInt32) (delivered : Bool) (fates : Nat → FrameFate) : LiveSession :=
  let fates := fun i => if fates i = .sent ∧ s.book = none then .sendFailed else fates i
  let voice := s.voice.sendAudio data (delivered && s.book.isSome) fates
  { s with
    voice
    sent := s.sent ++
      (voice.packets.drop s.voice.packets.length).map (⟨·, s.people, s.chosen⟩) }

end Engine

section App

def handleEvent : TsEvent → LiveSession
  | .channelsUpdated => { s with app := { s.app with roster := s.roster } }
  | .error => s

def sortedSet (ids : List UInt32) : List UInt32 := ids.dedup.mergeSort fun a b => decide (a ≤ b)

def setWhisperTargets (clientIds channelIds : List UInt32) : LiveSession :=
  let clients := sortedSet (clientIds.filter (· ≠ s.app.ownClientId))
  let channels := sortedSet channelIds
  let voice := s.voice.setWhisperTargets clients (channels.map (·.toUInt64))
  let hasTarget := !clients.isEmpty || !channels.isEmpty
  { s with
    voice := if !hasTarget && s.app.whisperActive then (voice.setWhisperActive false).1 else voice
    app := { s.app with
      whisperTargetClientIds := clients
      whisperTargetChannelIds := channels
      whisperActive := hasTarget && s.app.whisperActive } }

def hasWhisperTargets : Bool :=
  !s.app.whisperTargetClientIds.isEmpty || !s.app.whisperTargetChannelIds.isEmpty

def setWhisperActive (active : Bool) : LiveSession :=
  if active && !s.hasWhisperTargets then s
  else
    let voice := (s.voice.setWhisperActive active).1
    let accepted := (s.voice.setWhisperActive active).2
    if !accepted && active then { s with voice }
    else { s with voice, app := { s.app with whisperActive := active } }

def pruneWhisperTargets : LiveSession :=
  let clients := s.app.whisperTargetClientIds.filter fun id =>
    s.app.roster.clients.any (·.id = id)
  let channels := s.app.whisperTargetChannelIds.filter (· ∈ s.app.roster.channels)
  if clients.length = s.app.whisperTargetClientIds.length ∧
      channels.length = s.app.whisperTargetChannelIds.length then s
  else s.setWhisperTargets clients channels

/-- The roster part of `_pollEvents`. -/
def reconcileRoster : LiveSession :=
  let clients := if s.roster.clients = [] then s.app.roster.clients else s.roster.clients
  { s with app := { s.app with roster := { s.app.roster with clients } } }.pruneWhisperTargets

/-- `_pollEvents`; `due` says that the last reconciliation is two seconds ago. -/
def pollEvents (due : Bool) : LiveSession :=
  let t := s.events.foldl handleEvent { s with events := [] }
  if t.foreground && due then t.reconcileRoster else t

def openPanel : LiveSession :=
  { s with panel := some ⟨s.app.whisperTargetClientIds, s.app.whisperTargetChannelIds⟩ }

/-- `_commit` -/
def commit (panel : WhisperPanel) : LiveSession :=
  { s with panel := some panel }.setWhisperTargets panel.clients panel.channels

/-- A row is tapped. Ticking it chooses the person that it shows. -/
def tapClient (row : TsClient) : Option LiveSession :=
  match s.panel with
  | none => none
  | some panel =>
    if row ∉ s.app.roster.clients ∨ row.id = s.app.ownClientId then none
    else if row.id ∈ panel.clients then
      some (s.commit { panel with clients := panel.clients.filter (· ≠ row.id) })
    else
      let id := row.id.toUInt16
      some ({ s with
          chosen := Function.update s.chosen id (some row.uid)
          departed := s.departed.filter (· ≠ id) }.commit
        { panel with clients := panel.clients ++ [row.id] })

def tapChannel (id : UInt32) : Option LiveSession :=
  match s.panel with
  | none => none
  | some panel =>
    if id ∉ s.app.roster.channels then none
    else if id ∈ panel.channels then
      some (s.commit { panel with channels := panel.channels.filter (· ≠ id) })
    else some (s.commit { panel with channels := panel.channels ++ [id] })

def clearPanel : Option LiveSession := s.panel.map fun _ => s.commit ⟨[], []⟩

end App

inductive Action where
  | enters (client : ServerClient)
  | leaves (id : UInt16)
  | deliver
  | changeChannels (channels : List UInt64)
  | receiveItem (item : StreamItem)
  | loseConnection
  | reconnect (ownClient : UInt16)
  | handleItem (i : Nat)
  | startAudio
  | stopAudio
  | sendAudio (data : List UInt32) (delivered : Bool) (fates : Nat → FrameFate)
  | pollEvents (due : Bool)
  | setForeground (foreground : Bool)
  | openPanel
  | closePanel
  | tapClient (row : TsClient)
  | tapChannel (id : UInt32)
  | clearPanel
  | toggleWhisperActive

def step : Action → Option LiveSession
  | .enters client => s.enters client
  | .leaves id => some (s.leaves id)
  | .deliver => s.deliver
  | .changeChannels channels => s.changeChannels channels
  | .receiveItem item => s.receiveItem item
  | .loseConnection => s.loseConnection
  | .reconnect ownClient => s.reconnect ownClient
  | .handleItem i => s.handleItem i
  | .startAudio => some { s with voice := s.voice.startAudio }
  | .stopAudio => some { s with voice := s.voice.stopAudio }
  | .sendAudio data delivered fates => some (s.sendAudio data delivered fates)
  | .pollEvents due => some (s.pollEvents due)
  | .setForeground foreground => some { s with foreground }
  | .openPanel => some s.openPanel
  | .closePanel => some { s with panel := none }
  | .tapClient row => s.tapClient row
  | .tapChannel id => s.tapChannel id
  | .clearPanel => s.clearPanel
  | .toggleWhisperActive => some (s.setWhisperActive (!s.app.whisperActive))

section Effects

variable {s : LiveSession}

theorem mem_sortedSet {id : UInt32} {ids : List UInt32} : id ∈ sortedSet ids ↔ id ∈ ids := by
  simp [sortedSet, List.mem_mergeSort, List.mem_dedup]

theorem handleCommand_ownClient (book : Book) (message : ServerMessage) :
    (book.handleCommand message).ownClient = book.ownClient := by
  cases message <;> rfl

/-- A change of the app, which leaves the server, the library and the stored own id alone. -/
structure InApp (s t : LiveSession) : Prop where
  people : t.people = s.people
  book : t.book = s.book
  ownClientId : t.voice.ownClientId = s.voice.ownClientId
  chosen : t.chosen = s.chosen
  departed : t.departed = s.departed
  sent : t.sent = s.sent
  panel : t.panel = s.panel

namespace InApp

variable {t u : LiveSession}

theorem refl (s : LiveSession) : InApp s s := ⟨rfl, rfl, rfl, rfl, rfl, rfl, rfl⟩

theorem trans (first : InApp s t) (second : InApp t u) : InApp s u :=
  ⟨second.people.trans first.people, second.book.trans first.book,
    second.ownClientId.trans first.ownClientId, second.chosen.trans first.chosen,
    second.departed.trans first.departed, second.sent.trans first.sent,
    second.panel.trans first.panel⟩

end InApp

theorem inApp_handleEvent (event : TsEvent) : InApp s (s.handleEvent event) := by
  cases event <;> exact ⟨rfl, rfl, rfl, rfl, rfl, rfl, rfl⟩

theorem inApp_handleEvents (events : List TsEvent) : InApp s (events.foldl handleEvent s) := by
  induction events generalizing s with
  | nil => exact .refl s
  | cons event events ih => exact (inApp_handleEvent event).trans ih

theorem inApp_setWhisperTargets (clientIds channelIds : List UInt32) :
    InApp s (s.setWhisperTargets clientIds channelIds) := by
  unfold setWhisperTargets
  dsimp only
  split <;> exact ⟨rfl, rfl, rfl, rfl, rfl, rfl, rfl⟩

/-- The targets that the app and the engine select are among those that are named. -/
theorem setWhisperTargets_clients (clientIds channelIds : List UInt32) :
    (∀ id ∈ (s.setWhisperTargets clientIds channelIds).app.whisperTargetClientIds,
        id ∈ clientIds) ∧
      ∀ target ∈ (s.setWhisperTargets clientIds channelIds).voice.whisperTargetClients,
        ∃ id ∈ clientIds, id.toUInt16 = target := by
  have named : ∀ id ∈ sortedSet (clientIds.filter (· ≠ s.app.ownClientId)), id ∈ clientIds :=
    fun id listed => List.mem_of_mem_filter (mem_sortedSet.mp listed)
  refine ⟨named, fun target selected => ?_⟩
  obtain ⟨id, listed, -, -, same⟩ : ∃ id ∈ sortedSet (clientIds.filter (· ≠ s.app.ownClientId)),
      id ≠ s.voice.ownClientId ∧ id ≤ 65535 ∧ id.toUInt16 = target := by
    unfold setWhisperTargets at selected
    dsimp only at selected
    split at selected
    · rw [(VoiceSender.setWhisperActive_targets _ _).2] at selected
      exact VoiceSender.mem_setWhisperTargets selected
    · exact VoiceSender.mem_setWhisperTargets selected
  exact ⟨id, named id listed, same⟩

theorem inApp_setWhisperActive (active : Bool) : InApp s (s.setWhisperActive active) := by
  have own := (s.voice.setWhisperActive_targets active).1
  unfold setWhisperActive
  dsimp only
  split
  · exact .refl s
  split <;> exact ⟨rfl, rfl, own, rfl, rfl, rfl, rfl⟩

theorem inApp_pruneWhisperTargets : InApp s s.pruneWhisperTargets := by
  unfold pruneWhisperTargets
  dsimp only
  split
  · exact .refl s
  · exact inApp_setWhisperTargets _ _

theorem inApp_reconcileRoster : InApp s s.reconcileRoster := by
  let clients := if s.roster.clients = [] then s.app.roster.clients else s.roster.clients
  let t : LiveSession :=
    { s with app := { s.app with roster := { s.app.roster with clients } } }
  have taken : InApp s t := ⟨rfl, rfl, rfl, rfl, rfl, rfl, rfl⟩
  exact taken.trans inApp_pruneWhisperTargets

theorem inApp_pollEvents (due : Bool) : InApp s (s.pollEvents due) := by
  have begun : InApp s { s with events := [] } := ⟨rfl, rfl, rfl, rfl, rfl, rfl, rfl⟩
  unfold pollEvents
  dsimp only
  split
  · exact (begun.trans (inApp_handleEvents s.events)).trans inApp_reconcileRoster
  · exact begun.trans (inApp_handleEvents s.events)

theorem inApp_handleControlItem (item : StreamItem) : InApp s (s.handleControlItem item) := by
  unfold handleControlItem
  split
  · split <;> exact ⟨rfl, rfl, rfl, rfl, rfl, rfl, rfl⟩
  · exact ⟨rfl, rfl, rfl, rfl, rfl, rfl, rfl⟩
  · exact .refl s

theorem inApp_commit (panel : WhisperPanel) :
    InApp { s with panel := some panel } (s.commit panel) :=
  inApp_setWhisperTargets _ _

end Effects

end LiveSession

end Nek0.Source
