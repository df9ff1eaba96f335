import Nek0.Library.Batch
import Nek0.Source.VoiceApp

/-!
# The batch of a poll

`TsNative.pollEvents` in `lib/services/ts_ffi.dart` and the loop of `_pollEvents` in
`lib/models/ts_state.dart`, with the casts of `_handleEvent` and of the `fromJson` it calls, which
throw. Every branch casts before it writes, so an event that throws leaves the voice part as it
is. The rosters that some branches read from the engine, what the reconnect policy decides and
which events are ignored are given by the environment of the poll.
-/

namespace Nek0.Source.Poll

open Nek0.Library

/-- What `jsonDecode` returns. A number that is not an `int` keeps its `toInt` only. -/
inductive Value where
  | null
  | bool (value : Bool)
  | int (value : Int)
  | double (cut : Int)
  | string (value : String)
  | list (values : List Value)
  | map (fields : List (String × Value))

/-- A `u64` of the engine, which is an `int` in Dart only below 2^63. -/
def Value.ofU64 (value : UInt64) : Value :=
  if value.toNat < 2 ^ 63 then .int value.toNat else .double (2 ^ 63 - 1)

namespace Value

def get (data : Value) (key : String) : Value :=
  match data with
  | .map fields => (fields.lookup key).getD .null
  | _ => .null

def toInt (data : Value) (key : String) : Option Int :=
  match data.get key with
  | .int value => some value
  | .double cut => some cut
  | _ => none

def toText (data : Value) (key : String) : Option String :=
  match data.get key with
  | .string value => some value
  | _ => none

def toBool (data : Value) (key : String) : Option Bool :=
  match data.get key with
  | .bool value => some value
  | _ => none

end Value

/-- The type of a cast. -/
inductive Cast where
  | int
  | num
  | string
  | bool
  | list
  | map
  deriving DecidableEq, Repr

def Cast.accepts : Cast → Value → Bool
  | .int, .int _ => true
  | .num, .int _ => true
  | .num, .double _ => true
  | .string, .string _ => true
  | .bool, .bool _ => true
  | .list, .list _ => true
  | .map, .map _ => true
  | _, _ => false

/-- `as T`, and `as T?` for a nullable one. -/
def castsTo (cast : Cast) (nullable : Bool) (value : Value) : Bool :=
  cast.accepts value || match value with
    | .null => nullable
    | _ => false

/-- Every field of the list is read with the cast. -/
def reads (data : Value) (cast : Cast) (nullable : Bool) (keys : List String) : Bool :=
  keys.all fun key => castsTo cast nullable (data.get key)

/-- Every element of a list that may be missing passes. -/
def elements (value : Value) (passes : Value → Bool) : Bool :=
  match value with
  | .list values => values.all passes
  | .null => true
  | _ => false

/-- `TsChannel.fromJson` -/
def channelReads (json : Value) : Bool :=
  castsTo .map false json && reads json .int false ["id", "parent_id"] &&
    reads json .string false ["name"] && reads json .string true ["topic"] &&
    reads json .bool true ["has_password", "is_default", "is_private", "subscribed",
      "is_unencrypted"] &&
    reads json .int true ["client_count", "order", "needed_talk_power", "max_clients", "codec",
      "codec_quality", "channel_type", "icon_id"]

/-- `TsClient.fromJson` -/
def clientReads (json : Value) : Bool :=
  castsTo .map false json && reads json .int false ["id", "channel_id"] &&
    reads json .string false ["nickname"] &&
    reads json .int true ["channel_group_id", "channel_group_icon_id", "permission_hints",
      "client_type", "talk_power"] &&
    reads json .string true ["channel_group_name", "uid", "phonetic_name", "country_code",
      "metadata", "avatar_hash"] &&
    reads json .bool true ["away", "input_muted", "output_muted", "is_talking", "is_whispering",
      "talk_power_granted", "is_priority_speaker", "is_channel_commander", "is_recording",
      "input_hardware_enabled", "output_hardware_enabled", "output_only_muted"] &&
    reads json .num true ["volume"] &&
    elements (json.get "server_group_ids") (castsTo .int false) &&
    elements (json.get "server_group_names") (castsTo .string false) &&
    elements (json.get "server_group_icon_ids") (castsTo .int false)

/-- `ServerFile.fromJson` -/
def fileReads (json : Value) : Bool :=
  castsTo .map false json && reads json .string true ["name"] &&
    reads json .num true ["size", "modified"] && reads json .bool true ["is_directory"]

/-- The environment of a poll. -/
structure Env where
  /-- What `getChannels` and `getClients` decode to. -/
  channels : ConnectionId → Value
  clients : ConnectionId → Value
  /-- The reconnect policy writes the session once more. -/
  retries : ConnectionId → Bool
  /-- A list that was not asked for, a message of an ignored contact and the like. -/
  ignored : Value → Bool

/-- `TsEngineEvent` -/
structure TsEngineEvent where
  connectionId : ConnectionId
  data : Value

/-- An element of the drained list, if it can be read. -/
def decodeEvent (raw : Value) : Option TsEngineEvent :=
  if castsTo .map false raw && reads raw .num true ["connection_id"] then
    some ⟨((raw.toInt "connection_id").getD 0).toNat, raw⟩
  else none

/-- All of the drained list is read before any event is handled. -/
def pollEvents (batch : List Value) : Option (List TsEngineEvent) := batch.mapM decodeEvent

def rosterReads (env : Env) (cid : ConnectionId) : Bool :=
  castsTo .list false (env.channels cid) && elements (env.channels cid) channelReads &&
    castsTo .list false (env.clients cid) && elements (env.clients cid) clientReads

/-- The casts of the branch for a type of event. -/
def branchReads (env : Env) (s : Voice.VoiceApp) (cid : ConnectionId) (data : Value) :
    String → Bool
  | "connected" => rosterReads env cid &&
    reads data .int true ["client_id", "host_message_mode", "max_clients",
      "needed_identity_security_level"] &&
    reads data .string true ["server_name", "server_uid", "voice_encryption_mode",
      "welcome_message", "host_message"]
  | "file_transfer" => reads data .int true ["transfer_id"] && reads data .bool true ["ok"] &&
    reads data .string true ["local_path"]
  | "file_transfer_progress" => reads data .int true ["transfer_id", "bytes", "total_bytes"] &&
    reads data .string true ["remote_path"]
  | "file_list" => reads data .int true ["request_id"] && reads data .bool true ["ok"] &&
    reads data .string true ["error", "path"] && elements (data.get "files") fileReads
  | "file_info" => reads data .bool true ["ok"] &&
    (data.toBool "ok" != some true ||
      reads data .string true ["path", "name"] && reads data .num true ["size", "modified"])
  | "token_used" => reads data .string true ["token2"]
  | "ban_list" => reads data .num true ["ban_id", "created", "duration"] &&
    reads data .string true ["ip", "name", "uid", "last_nickname", "invoker_name"]
  | "complain_list" => reads data .num true ["target_db_id", "from_db_id", "timestamp"] &&
    reads data .string true ["target_name", "from_name", "message"]
  | "channel_description" => reads data .string true ["description"]
  | "command_throttled" => reads data .int true ["pending"] && reads data .bool true ["degraded"]
  | "connection_phase" => reads data .string true ["phase"]
  | "connect_failed" => reads data .string true ["kind", "message"] &&
    reads data .bool true ["retryable"]
  -- A stale event is dropped before it is read.
  | "disconnected" => (s.stateOf cid).connecting ||
    reads data .bool true ["expected"] && reads data .string true ["reason"]
  | "error" => reads data .string false ["message"]
  | "command_error" => reads data .string true ["code", "message", "missing_permission"]
  | "network_stats" => reads data .num true ["packet_loss_percent"] &&
    reads data .int true ["rtt_ms", "rtt_deviation_ms", "jitter_ms", "bytes_in", "bytes_out",
      "packets_in", "packets_out", "bandwidth_in", "bandwidth_out"]
  | "text_message" => reads data .int false ["from_client_id", "target_mode"] &&
    reads data .string false ["from_client", "message"]
  | "client_joined" => reads data .int false ["client_id", "channel_id"] &&
    reads data .string false ["nickname"]
  | "client_left" => reads data .int false ["client_id"]
  | "channels_updated" => rosterReads env cid
  | "diag" => reads data .string false ["msg"]
  | _ => true

def connectErrorMessage (kind detail : String) : String :=
  match kind with
  | "dns" => "Server address could not be resolved"
  | "timeout" => "The server did not answer in time"
  | "network" => "Network error while contacting the server"
  | "password" => "Wrong server password"
  | "channel_password" => "Wrong channel password"
  | "banned" => "You are banned from this server"
  | "nickname_in_use" => "This nickname is already in use"
  | "identity_level" => "The server requires a higher identity security level"
  | "server_full" => "The server is full"
  | "server_identity_changed" => "The server changed its identity key; connection refused"
  | "server_refused" => "The server refused the connection"
  | "protocol" => "Unexpected server response"
  | "cancelled" => "Connection cancelled"
  | "connection_lost" => "Connection lost"
  | _ => detail

/-- Whether a text occurs in another one. -/
def occurs (text whole : String) : Bool := whole.toList.tails.any (text.toList.isPrefixOf ·)

def formatCommandError (code message : String) (missingPermission : Option String) : String :=
  if occurs "InvalidPassword" code then "The server or channel password was rejected"
  else if occurs "Insufficient" code || missingPermission.isSome then
    missingPermission.elim "The server denied this operation" fun missing =>
      "Missing TeamSpeak permission: " ++ missing
  else if occurs "Flood" code then "The server rate limit was reached; retry later"
  else if occurs "ChannelNotFound" code then "The selected channel no longer exists"
  else if message = "" then code
  else message

def toChannel (json : Value) : Voice.TsChannel where
  id := ((json.toInt "id").getD 0).toNat
  neededTalkPower := (json.toInt "needed_talk_power").getD 0

def toClient (json : Value) : Voice.TsClient where
  id := ((json.toInt "id").getD 0).toNat
  channelId := ((json.toInt "channel_id").getD 0).toNat
  talkPower := (json.toInt "talk_power").getD 0
  talkPowerGranted := (json.toBool "talk_power_granted").getD false

def listOf {α : Type} (value : Value) (read : Value → α) : List α :=
  match value with
  | .list values => values.map read
  | _ => []

/-- The other types whose branch ends with a `copyWith`. -/
def copying : List String :=
  ["file_transfer", "file_transfer_progress", "file_list", "file_info", "token_used", "ban_list",
    "complain_list", "channel_description", "command_throttled", "network_stats", "text_message",
    "diag"]

/-- The event as the voice part takes it, after the casts. -/
def toVoice (env : Env) (s : Voice.VoiceApp) (cid : ConnectionId) (data : Value) :
    String → Voice.TsEngineEvent
  | "connected" => .connected
    { clientId := (data.toInt "client_id").map Int.toNat
      hostMessage := (data.toText "host_message").getD ""
      hostMessageMode := ((data.toInt "host_message_mode").getD 0).toNat
      channels := listOf (env.channels cid) toChannel
      clients := listOf (env.clients cid) toClient }
  | "connect_failed" =>
    let kind := (data.toText "kind").getD "unknown"
    .connectFailed kind (connectErrorMessage kind ((data.toText "message").getD kind))
      (env.retries cid)
  | "disconnected" => .disconnected ((data.toBool "expected").getD true)
    ((data.toText "reason").getD "") (env.retries cid)
  | "error" => .error ((data.toText "message").getD "")
  | "command_error" =>
    let code := (data.toText "code").getD "Unknown"
    let missing := data.toText "missing_permission"
    .other (some { Voice.Notice.clear with
      error := some (formatCommandError code ((data.toText "message").getD code) missing)
      errorCode := some code
      missingPermission := missing })
  | "client_joined" => .clientJoined ((data.toInt "client_id").getD 0).toNat
    ((data.toInt "channel_id").getD 0).toNat
  | "client_left" => .clientLeft ((data.toInt "client_id").getD 0).toNat
  | "channels_updated" => .channelsUpdated (listOf (env.channels cid) toChannel)
    (listOf (env.clients cid) toClient)
  | "client_updated" => .other none
  | "connection_phase" => .other (if (s.stateOf cid).connected then none else some .clear)
  | type => .other (if type ∈ copying && !env.ignored data then some .clear else none)

/-- `_handleEvent`, which reads the type for the log before anything else. -/
def handleEvent (env : Env) (s : Voice.VoiceApp) (event : TsEngineEvent) :
    Except Unit Voice.VoiceApp :=
  let cid := event.connectionId
  if !reads event.data .string true ["type"] then .error ()
  else if cid ≠ 0 ∧ s.rt.find cid = none then .ok s
  else
    let type := (event.data.toText "type").getD ""
    if branchReads env s cid event.data type then
      .ok (s.handleEvent cid (toVoice env s cid event.data type))
    else .error ()

/-- The events that `_pollEvents` handles to the end, in order, with the state after them. One
`try` is around the decoding and the loop. -/
def pollHandled (env : Env) (s : Voice.VoiceApp) (batch : List Value) :
    List TsEngineEvent × Voice.VoiceApp :=
  match pollEvents batch with
  | none => ([], s)
  | some events => stopping (handleEvent env) s events

end Nek0.Source.Poll
