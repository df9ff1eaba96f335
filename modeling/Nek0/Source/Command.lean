import Mathlib.Data.Rat.Defs

/-!
# Engine commands

`Command` of `native/src/lib.rs`: what the user interface asks the connection
event loop to send, with the flood cost of each command and the rule by which a
queued command is replaced by a newer one. Audio samples are kept by the bit
pattern of their `f32` value.
-/

namespace Nek0.Source

inductive Command where
  | sendMessage (targetMode : UInt8) (targetCid : UInt64) (message : String)
  | moveChannel (clientId : UInt16) (channelId : UInt64) (channelPassword : Option String)
  | setMuted (input output : Bool)
  | setAway (away : Bool) (message : Option String)
  | setNickname (name : String)
  | kickClient (clientId : UInt16) (fromServer : Bool) (reason : Option String)
  | banClient (clientId : UInt16) (seconds : UInt64) (reason : Option String)
  | banUid (uid : String) (seconds : UInt64) (reason : Option String)
  | banAddress (ip name : Option String) (seconds : UInt64) (reason : Option String)
  | banDelete (banId : UInt32)
  | listBans
  | subscribeChannel (channelId : UInt64) (unsubscribe : Bool)
  | channelDescription (channelId : UInt64)
  | addClientToGroup (dbId groupId : UInt64)
  | removeClientFromGroup (dbId groupId : UInt64)
  | complainAdd (dbId : UInt64) (message : String)
  | setTalker (clientId : UInt16) (talkPowerGranted : Bool)
  | downloadFile (transferId : UInt16) (channelId : UInt64) (channelPassword remotePath : String)
  | uploadFile (transferId : UInt16) (channelId : UInt64)
      (channelPassword remotePath sourcePath : String) (size : UInt64) (overwrite : Bool)
  | requestFileList (requestId : UInt32) (channelId : UInt64) (channelPassword path : String)
  | deleteFile (channelId : UInt64) (channelPassword path : String)
  | createDirectory (channelId : UInt64) (channelPassword path : String)
  | renameFile (channelId : UInt64) (channelPassword : String) (targetChannelId : Option UInt64)
      (targetChannelPassword : Option String) (oldName newName : String)
  | fileInfoRequest (requestId : UInt32) (channelId : UInt64) (channelPassword name : String)
  | useToken (token : String)
  | createChannel (parentId : UInt64) (name : String) (topic description password : Option String)
      (maxClients : Option Int32) (permanent semiPermanent : Bool)
  | editChannel (channelId : UInt64) (name topic description password : Option String)
      (hasPassword : Option Bool) (maxClients : Option Int32) (permanent semiPermanent : Option Bool)
  | deleteChannel (channelId : UInt64) (force : Bool)
  | moveChannelTree (channelId parentId : UInt64) (order : Option UInt64)
  | pokeClient (clientId : UInt16) (message : String)
  | setChannelCommander (enabled : Bool)
  | disconnect
  | sendAudio (data : List UInt32)
  deriving Repr

/-- Flood cost of a control command, in tokens. Audio and disconnect are not
control commands and never go through the budget. -/
def Command.floodCost : Command → ℚ
  | .sendMessage .. => 2
  | .moveChannel .. => 3 / 2
  | .setMuted .. => 1 / 2
  | .setAway .. => 1 / 2
  | .setChannelCommander .. => 1 / 2
  | .setNickname .. => 2
  | .kickClient .. | .banClient .. | .banUid .. | .banAddress .. | .banDelete ..
  | .addClientToGroup .. | .removeClientFromGroup .. | .complainAdd .. | .setTalker .. => 2
  | .listBans | .subscribeChannel .. | .channelDescription .. => 1
  | .pokeClient .. => 2
  | .downloadFile .. | .uploadFile .. => 1
  | .requestFileList .. | .deleteFile .. | .createDirectory .. | .renameFile ..
  | .fileInfoRequest .. => 1
  | .useToken .. => 1
  | .createChannel .. | .editChannel .. | .deleteChannel .. | .moveChannelTree .. => 2
  | .sendAudio .. | .disconnect => 0

/-- Whether the budget may drop the older queued command `other` in favour of
`self`. The rule looks at the two kinds only, never at the ids they carry. -/
def Command.supersedes (self other : Command) : Bool :=
  match self, other with
  | .moveChannel .., .moveChannel .. => true
  | .setMuted .., .setMuted .. => true
  | .setAway .., .setAway .. => true
  | .setNickname .., .setNickname .. => true
  | .requestFileList .., .requestFileList .. => true
  | .fileInfoRequest .., .fileInfoRequest .. => true
  | .setChannelCommander .., .setChannelCommander .. => true
  | .subscribeChannel .., .subscribeChannel .. => true
  | .listBans, .listBans => true
  | .setTalker .., .setTalker .. => true
  | _, _ => false

/-- Two commands of one kind replace the same commands. -/
theorem Command.supersedes_congr {a b : Command} (same : a.supersedes b = true) (c : Command) :
    a.supersedes c = b.supersedes c := by
  unfold Command.supersedes at same
  split at same <;> first | (cases c <;> rfl) | cases same

theorem Command.supersedes_symm {a b : Command} (same : a.supersedes b = true) :
    b.supersedes a = true := by
  unfold Command.supersedes at same
  split at same <;> first | rfl | cases same

end Nek0.Source
