import Mathlib.Data.List.Basic
import Mathlib.Logic.Function.Basic
import Nek0.Source.Roster

/-!
# The permission hints of a session

Clients come to a server and leave it, and their ids are given again. The server says what may be
done to a client, `handle_control_item` keeps that under the id of the client, and the roster that
it makes of the book shows it. Messages of the server reach the client library in order, and the
event loop hands their items on in an order of its own. The library rebuilds a lost connection by
itself.
-/

namespace Nek0.Source

namespace HintSession

/-- A client and which of all visits to the server this is. The number is not sent. -/
structure Visitor where
  client : Roster.BookClient
  visit : Nat

/-- A part of `ClientPermissionHints`, with the visit of the client that the server means. -/
structure Hint where
  clientId : UInt16
  flags : UInt64
  visit : Nat
  deriving DecidableEq, Repr

inductive ServerMessage where
  | clientEnterView (visitor : Visitor)
  | clientLeftView (id : UInt16)
  | clientPermissionHints (hints : List Hint)

/-- `data::Connection` -/
structure Book where
  visitors : List Visitor
  serverGroups : UInt64 → Option Roster.Group
  channelGroups : UInt64 → Option Roster.Group

def Book.toRoster (book : Book) : Roster.Book :=
  ⟨book.visitors.map (·.client), book.serverGroups, book.channelGroups⟩

/-- `StreamItem`; the kinds that touch neither roster nor hints are one. -/
inductive Item where
  | bookEvents
  | clientPermissionHints (hints : List Hint)
  | other

/-- A client in the roster, whose visit it is, and the hint that was found for it. -/
structure Row where
  client : Roster.TsClient
  visit : Nat
  hint : Option Hint

end HintSession

structure HintSession where
  /-- How many visits to the server there were. -/
  visits : Nat
  people : List HintSession.Visitor
  /-- On the way to the library, oldest first. -/
  wire : List HintSession.ServerMessage
  /-- There is no book while the library connects. -/
  book : Option HintSession.Book
  /-- Polled and not yet handled. -/
  items : List HintSession.Item
  talkingClients : UInt16 → Option Nat
  whisperingClients : UInt16 → Option Nat
  permissionHints : UInt16 → Option HintSession.Hint
  clients : List HintSession.Row

namespace HintSession

/-- Nobody is there before the first connection. -/
def new : HintSession :=
  ⟨0, [], [], none, [], fun _ => none, fun _ => none, fun _ => none, []⟩

variable (s : HintSession)

section Server

/-- A message is sent while there is a connection. -/
def send (message : ServerMessage) : List ServerMessage :=
  if s.book.isSome then s.wire ++ [message] else s.wire

/-- A client gets an id that is free. -/
def enters (client : Roster.BookClient) : Option HintSession :=
  if s.people.any (·.client.id = client.id) then none
  else
    some { s with
      visits := s.visits + 1
      people := ⟨client, s.visits⟩ :: s.people
      wire := s.send (.clientEnterView ⟨client, s.visits⟩) }

def leaves (id : UInt16) : HintSession :=
  { s with
    people := s.people.filter (·.client.id ≠ id)
    wire := s.send (.clientLeftView id) }

/-- The hint about the client that has an id. -/
def hintAbout (about : UInt16 × UInt64) : Option Hint :=
  (s.people.find? (·.client.id = about.1)).map fun visitor => ⟨about.1, about.2, visitor.visit⟩

/-- The server says what may be done to some clients. -/
def sendHints (about : List (UInt16 × UInt64)) : HintSession :=
  { s with wire := s.send (.clientPermissionHints (about.filterMap s.hintAbout)) }

end Server

section Library

/-- The library handles the next message of the server. -/
def deliver : Option HintSession :=
  match s.book, s.wire with
  | some book, message :: wire =>
    match message with
    | .clientEnterView visitor =>
      let visitors := visitor :: book.visitors.filter (·.client.id ≠ visitor.client.id)
      some { s with wire, book := some { book with visitors }, items := s.items ++ [.bookEvents] }
    | .clientLeftView id =>
      let visitors := book.visitors.filter (·.client.id ≠ id)
      some { s with wire, book := some { book with visitors }, items := s.items ++ [.bookEvents] }
    | .clientPermissionHints hints =>
      some { s with wire, items := s.items ++ [.clientPermissionHints hints] }
  | _, _ => none

/-- Anything in the book changes but who is there. -/
def changeBook (changed : Book) : Option HintSession :=
  s.book.bind fun book =>
    if changed.visitors.map (fun visitor => (visitor.client.id, visitor.visit)) =
        book.visitors.map (fun visitor => (visitor.client.id, visitor.visit)) then
      some { s with book := some changed, items := s.items ++ [.bookEvents] }
    else none

def receiveOther : HintSession := { s with items := s.items ++ [.other] }

/-- The connection is lost, and the library builds it anew. -/
def loseConnection : Option HintSession :=
  s.book.map fun _ => { s with book := none, wire := [], items := s.items ++ [.other] }

/-- `InitServer` of a connection gives an id that is free and tells who is there. -/
def connects (own : Roster.BookClient)
    (serverGroups channelGroups : UInt64 → Option Roster.Group) : Option HintSession :=
  if s.book.isSome ∨ s.people.any (·.client.id = own.id) then none
  else
    let people := ⟨own, s.visits⟩ :: s.people
    some { s with
      visits := s.visits + 1
      people
      book := some ⟨[], serverGroups, channelGroups⟩
      wire := people.map .clientEnterView
      items := s.items ++ [.bookEvents] }

end Library

section Engine

def live : Roster.LiveState where
  talkingClients := s.talkingClients
  whisperingClients := s.whisperingClients
  permissionHints id := (s.permissionHints id).map (·.flags)

/-- `refresh_from_book` -/
def refreshFromBook (book : Book) (now : Nat) : List Row :=
  book.visitors.map fun visitor =>
    ⟨Roster.tsClient book.toRoster s.live now visitor.client, visitor.visit,
      s.permissionHints visitor.client.id⟩

def insertHints (hints : List Hint) : HintSession :=
  { s with
    permissionHints := hints.foldl (fun stored hint =>
      Function.update stored hint.clientId (some hint)) s.permissionHints }

/-- `handle_control_item`, and the end of `do_connect` for the first events of the book. -/
def handleControlItem (now : Nat) : Item → HintSession
  | .bookEvents =>
    match s.book with
    | some book => { s with clients := s.refreshFromBook book now }
    | none => s
  | .clientPermissionHints hints => s.insertHints hints
  | .other => s

def handleItem (i now : Nat) : Option HintSession :=
  s.items[i]?.map fun item => { s with items := s.items.eraseIdx i }.handleControlItem now item

/-- The end of `decode_to_client_buffer`. -/
def hears (fromId : UInt16) (isWhisper : Bool) (now : Nat) : HintSession :=
  { s with
    talkingClients := Function.update s.talkingClients fromId (some now)
    whisperingClients :=
      if isWhisper then Function.update s.whisperingClients fromId (some now)
      else s.whisperingClients }

/-- The beginning of a turn of `event_loop` forgets who was silent for two seconds. -/
def beginTurn (now : Nat) : HintSession :=
  let recent (last : Option Nat) := last.filter fun time => now - time < 2000
  { s with
    talkingClients := fun id => recent (s.talkingClients id)
    whisperingClients := fun id => recent (s.whisperingClients id) }

/-- `ts_get_clients` -/
def tsGetClients (now : Nat) : List Roster.TsClient :=
  s.clients.map fun row =>
    { row.client with
      isTalking := Roster.isLive now (s.talkingClients row.client.id.toUInt16)
      isWhispering := Roster.isLive now (s.whisperingClients row.client.id.toUInt16) }

end Engine

inductive Action where
  | enters (client : Roster.BookClient)
  | leaves (id : UInt16)
  | sendHints (about : List (UInt16 × UInt64))
  | deliver
  | changeBook (changed : Book)
  | receiveOther
  | loseConnection
  | connects (own : Roster.BookClient) (serverGroups channelGroups : UInt64 → Option Roster.Group)
  | handleItem (i now : Nat)
  | hears (fromId : UInt16) (isWhisper : Bool) (now : Nat)
  | beginTurn (now : Nat)

def step : Action → Option HintSession
  | .enters client => s.enters client
  | .leaves id => some (s.leaves id)
  | .sendHints about => some (s.sendHints about)
  | .deliver => s.deliver
  | .changeBook changed => s.changeBook changed
  | .receiveOther => some s.receiveOther
  | .loseConnection => s.loseConnection
  | .connects own serverGroups channelGroups => s.connects own serverGroups channelGroups
  | .handleItem i now => s.handleItem i now
  | .hears fromId isWhisper now => some (s.hears fromId isWhisper now)
  | .beginTurn now => some (s.beginTurn now)

end HintSession

end Nek0.Source
