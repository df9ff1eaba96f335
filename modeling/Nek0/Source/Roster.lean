import Mathlib.Data.List.Basic

/-!
# The roster of a session

The clients that `refresh_from_book` in `native/src/api.rs` makes of the book of the client library
and of the live state of the session. What it copies from the book as it is, the channels and the
volumes are left out. Times are in milliseconds.
-/

namespace Nek0.Source.Roster

structure Group where
  name : String
  icon : UInt32
  deriving DecidableEq, Repr

/-- `data::Client` -/
structure BookClient where
  id : UInt16
  name : String
  channel : UInt64
  databaseId : UInt64
  channelGroup : UInt64
  /-- The set of the server groups, in the order in which it is iterated over. -/
  serverGroups : List UInt64
  uid : Option String
  awayMessage : Option String
  /-- `ClientType::Query` -/
  isQuery : Bool

/-- `data::Connection` -/
structure Book where
  clients : List BookClient
  serverGroups : UInt64 → Option Group
  channelGroups : UInt64 → Option Group

/-- What `TsState` knows of the clients by their ids. -/
structure LiveState where
  talkingClients : UInt16 → Option Nat
  whisperingClients : UInt16 → Option Nat
  permissionHints : UInt16 → Option UInt64

structure TsClient where
  id : UInt32
  nickname : String
  channelId : UInt32
  databaseId : UInt64
  channelGroupId : UInt64
  channelGroupName : Option String
  channelGroupIconId : UInt32
  serverGroupIds : List UInt64
  serverGroupNames : List String
  serverGroupIconIds : List UInt32
  uid : Option String
  away : Bool
  clientType : UInt8
  isTalking : Bool
  isWhispering : Bool
  permissionHints : UInt64
  deriving DecidableEq, Repr

/-- The names and icons of the server groups of a client. -/
def groups (book : Book) (client : BookClient) : List (String × UInt32) :=
  (client.serverGroups.filterMap book.serverGroups).map fun group => (group.name, group.icon)

def serverGroupNames (groups : List (String × UInt32)) : List String :=
  (groups.map fun group => group.1).mergeSort fun left right => decide (left ≤ right)

def serverGroupIconIds (groups : List (String × UInt32)) : List UInt32 :=
  (groups.mergeSort fun left right => decide (left.1 ≤ right.1)).map fun group => group.2

/-- Whether the last packet arrived less than half a second ago. -/
def isLive (now : Nat) (last : Option Nat) : Bool := last.any fun time => now - time < 500

def tsClient (book : Book) (live : LiveState) (now : Nat) (client : BookClient) : TsClient where
  id := client.id.toUInt32
  nickname := client.name
  channelId := client.channel.toUInt32
  databaseId := client.databaseId
  channelGroupId := client.channelGroup
  channelGroupName := (book.channelGroups client.channelGroup).map (·.name)
  channelGroupIconId := ((book.channelGroups client.channelGroup).map (·.icon)).getD 0
  serverGroupIds := client.serverGroups.mergeSort fun left right => decide (left ≤ right)
  serverGroupNames := serverGroupNames (groups book client)
  serverGroupIconIds := serverGroupIconIds (groups book client)
  uid := client.uid
  away := client.awayMessage.isSome
  clientType := if client.isQuery then 1 else 0
  isTalking := isLive now (live.talkingClients client.id)
  isWhispering := isLive now (live.whisperingClients client.id)
  permissionHints := (live.permissionHints client.id).getD 0

/-- `refresh_from_book` -/
def refreshFromBook (book : Book) (live : LiveState) (now : Nat) : List TsClient :=
  book.clients.map (tsClient book live now)

end Nek0.Source.Roster
