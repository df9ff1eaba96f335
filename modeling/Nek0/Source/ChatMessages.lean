import Nek0.Library.LinkedMap
import Nek0.Library.ListSort
import Nek0.Source.ChatThreads
import Nek0.Source.DateTime
import Nek0.Source.EventBatch

/-!
# Chat messages with all their fields

`ChatMessage` and `ChatThread.group` of `lib/models/chat_message.dart` with the keys as the texts
that they are, and the encoding of `lib/services/chat_history_service.dart`. A stored history is
here the value that `jsonDecode` makes of it; a text that is no JSON has none. The messages of
`Source.ChatThreads` stand for these, and so do their threads.
-/

namespace Nek0.Source.Chat

open Nek0.Library Nek0.Source.Poll

structure ChatMessage where
  id : Int
  fromClient : String
  fromClientId : Int
  /-- 1 private, 2 channel, 3 server -/
  targetMode : Int
  message : String
  timestamp : DateTime
  peerId : Option Int := none
  peerName : Option String := none
  serverGenerated : Bool := false
  censored : Bool := false
  highlighted : Bool := false
  deriving DecidableEq, Repr

namespace ChatThreadKey

/-- The `value` of a key. -/
def channel : String := "channel"

def server : String := "server"

def privateWith (peerId : Int) : String := "client:" ++ toString peerId

def isPrivate (value : String) : Bool := "client:".toList.isPrefixOf value.toList

theorem isPrivate_privateWith (peerId : Int) : isPrivate (privateWith peerId) = true := by
  rw [isPrivate, privateWith, String.toList_append, List.isPrefixOf_iff_prefix]
  exact List.prefix_append _ _

end ChatThreadKey

def ChatMessage.threadKey (m : ChatMessage) : String :=
  if m.targetMode = 1 then ChatThreadKey.privateWith (m.peerId.getD m.fromClientId)
  else if m.targetMode = 3 then ChatThreadKey.server
  else ChatThreadKey.channel

structure ChatThread where
  key : String
  title : Option String := none
  messages : List ChatMessage
  unread : Int
  deriving DecidableEq, Repr

section Group

/-- The maps that the loop of `group` fills. -/
structure Grouped where
  byKey : LinkedMap String (List ChatMessage)
  names : String → Option String

def Grouped.add (g : Grouped) (message : ChatMessage) : Grouped :=
  let key := message.threadKey
  let name := message.peerName.getD message.fromClient
  { byKey := g.byKey.insert key ((g.byKey.find key).getD [] ++ [message])
    names :=
      if ChatThreadKey.isPrivate key ∧ name ≠ "" then Function.update g.names key (some name)
      else g.names }

def grouped (messages : List ChatMessage) : Grouped :=
  messages.foldl Grouped.add ⟨.empty, fun _ => none⟩

/-- The time of the last message of a thread. -/
def lastTime (byKey : LinkedMap String (List ChatMessage)) (key : String) : Int :=
  (((byKey.find key).bind List.getLast?).map (·.timestamp.microsecondsSinceEpoch)).getD 0

/-- `rightTime.compareTo(leftTime)` -/
def byLastTime (byKey : LinkedMap String (List ChatMessage)) : Comparator String :=
  .onRank fun key => -lastTime byKey key

/-- `ChatThread.group` -/
def group (messages : List ChatMessage) (unreadByThread : String → Option Int)
    (sorted : ListSort (byLastTime (grouped messages).byKey)) : List ChatThread :=
  let ⟨byKey, names⟩ := grouped messages
  let thread (title : Option String) (key : String) : ChatThread :=
    { key, title, messages := (byKey.find key).getD [], unread := (unreadByThread key).getD 0 }
  let privateKeys := sorted.sort (byKey.keys.filter ChatThreadKey.isPrivate)
  thread none ChatThreadKey.channel :: thread none ChatThreadKey.server ::
    privateKeys.map fun key => thread (names key) key

theorem grouped_append (messages : List ChatMessage) (message : ChatMessage) :
    grouped (messages ++ [message]) = (grouped messages).add message := by
  rw [grouped, List.foldl_append]
  rfl

/-- The messages under a key are those of its thread, in their order. -/
theorem find_grouped (messages : List ChatMessage) (key : String) :
    (grouped messages).byKey.find key =
      if messages.filter (·.threadKey = key) = [] then none
      else some (messages.filter (·.threadKey = key)) := by
  induction messages using List.reverseRecOn with
  | nil => rfl
  | append_singleton messages message ih =>
    rw [grouped_append, Grouped.add, LinkedMap.find_insert, List.filter_append]
    by_cases same : key = message.threadKey
    · subst same
      have alone : [message].filter (·.threadKey = message.threadKey) = [message] := by simp
      rw [if_pos rfl, alone, if_neg (by simp), ih]
      split
      next none_there => rw [none_there]; rfl
      · rfl
    · have other : ¬ message.threadKey = key := fun equal => same equal.symm
      simp [same, other, ih]

theorem getD_find_grouped (messages : List ChatMessage) (key : String) :
    ((grouped messages).byKey.find key).getD [] = messages.filter (·.threadKey = key) := by
  rw [find_grouped]
  split
  next none_there => exact none_there.symm
  · rfl

theorem mem_keys_grouped {messages : List ChatMessage} {key : String} :
    key ∈ (grouped messages).byKey.keys ↔ ∃ m ∈ messages, m.threadKey = key := by
  rw [LinkedMap.mem_keys, find_grouped]
  split
  next none_there => simpa using none_there
  next there => simpa using there

theorem lastTime_grouped (messages : List ChatMessage) (key : String) :
    lastTime (grouped messages).byKey key =
      ((messages.filter (·.threadKey = key)).getLast?.map
        (·.timestamp.microsecondsSinceEpoch)).getD 0 := by
  rw [lastTime, find_grouped]
  split
  next none_there => simp [none_there]
  · rfl

/-- The keys are in the order in which they first came up. -/
theorem keys_grouped (l : List ChatMessage) :
    (grouped l).byKey.keys = (l.map (·.threadKey)).eraseDups := by
  induction l using List.reverseRecOn with
  | nil => rfl
  | append_singleton l m ih =>
    have listed : m.threadKey ∈ (grouped l).byKey.keys ↔ m.threadKey ∈ l.map (·.threadKey) := by
      rw [ih, List.mem_eraseDups]
    rw [grouped_append, List.map_append, List.map_singleton, eraseDups_append_singleton, ← ih]
    simp only [Grouped.add, LinkedMap.insert, listed]

/-- The name of a private thread is the last one that is not empty. -/
theorem names_grouped (l : List ChatMessage) {key : String}
    (own : ChatThreadKey.isPrivate key = true) : (grouped l).names key =
      (((l.filter (·.threadKey = key)).map fun m => m.peerName.getD m.fromClient).filter
        (· ≠ "")).getLast? := by
  induction l using List.reverseRecOn with
  | nil => rfl
  | append_singleton l m ih =>
    rw [grouped_append, Grouped.add, List.filter_append, List.map_append, List.filter_append]
    by_cases same : m.threadKey = key
    · subst same
      by_cases unnamed : m.peerName.getD m.fromClient = ""
      · simp [unnamed, ih]
      · simp [unnamed, own]
    · have other : key ≠ m.threadKey := Ne.symm same
      have nothing : [m].filter (·.threadKey = key) = [] := by simp [same]
      rw [nothing, List.map_nil, List.filter_nil, List.append_nil, ← ih]
      split
      · exact Function.update_of_ne other _ _
      · rfl

/-- The thread of a key. -/
def threadOf (messages : List ChatMessage) (unreadByThread : String → Option Int) (key : String) :
    ChatThread :=
  { key
    title := if ChatThreadKey.isPrivate key then (grouped messages).names key else none
    messages := messages.filter (·.threadKey = key)
    unread := (unreadByThread key).getD 0 }

variable {unreadByThread : String → Option Int}

theorem group_eq (messages : List ChatMessage)
    (sorted : ListSort (byLastTime (grouped messages).byKey)) :
    group messages unreadByThread sorted =
      (ChatThreadKey.channel :: ChatThreadKey.server ::
        sorted.sort ((grouped messages).byKey.keys.filter ChatThreadKey.isPrivate)).map
          (threadOf messages unreadByThread) := by
  rw [List.map_cons, List.map_cons, group]
  simp only [getD_find_grouped]
  congr 2
  refine List.map_congr_left fun key there => ?_
  have own : ChatThreadKey.isPrivate key = true :=
    (List.mem_filter.mp ((sorted.perm _).subset there)).2
  rw [threadOf, if_pos own]

/-- Another sort puts at most the threads of one time in another order. -/
theorem group_perm (messages : List ChatMessage)
    (sorted sorted' : ListSort (byLastTime (grouped messages).byKey)) :
    (group messages unreadByThread sorted).Perm (group messages unreadByThread sorted') := by
  rw [group_eq, group_eq]
  refine List.Perm.map _ (.cons _ (.cons _ ?_))
  exact (sorted.perm _).trans (sorted'.perm _).symm

end Group

section Stands

/-- The message of `ChatThreads` that stands for a message. -/
structure Stands (m : ChatMessage) (simple : Source.ChatMessage) : Prop where
  id : m.id = simple.id
  fromClient : m.fromClient = simple.fromClient
  fromClientId : m.fromClientId = simple.fromClientId
  targetMode : m.targetMode = simple.targetMode
  message : m.message = simple.message
  timestamp : m.timestamp.microsecondsSinceEpoch = 1000 * simple.timestamp
  peerId : m.peerId = simple.peerId.map Int.ofNat
  peerName : m.peerName = simple.peerName

/-- The text of a key. -/
def valueOf : Source.ChatThreadKey → String
  | .channel => ChatThreadKey.channel
  | .server => ChatThreadKey.server
  | .client peerId => ChatThreadKey.privateWith peerId

structure ThreadStands (thread : ChatThread) (simple : Source.ChatThread) : Prop where
  key : thread.key = valueOf simple.key
  title : thread.title = simple.title
  messages : List.Forall₂ Stands thread.messages simple.messages
  unread : thread.unread = simple.unread

theorem isPrivate_valueOf (key : Source.ChatThreadKey) :
    ChatThreadKey.isPrivate (valueOf key) = key.isPrivate := by
  cases key with
  | channel => decide
  | server => decide
  | client peerId => exact ChatThreadKey.isPrivate_privateWith peerId

theorem valueOf_injective : Function.Injective valueOf := by
  intro a b same
  have kinds : a.isPrivate = b.isPrivate := by
    rw [← isPrivate_valueOf, ← isPrivate_valueOf, same]
  cases a <;> cases b
  case client.client p q =>
    have digits : (toString (p : Int)).toList = (toString (q : Int)).toList := by
      have texts := congrArg String.toList same
      simpa [valueOf, ChatThreadKey.privateWith] using texts
    rw [Int.ofNat_inj.mp (toString_int_injective digits)]
  case channel.server => exact absurd same (by decide)
  case server.channel => exact absurd same (by decide)
  all_goals first | rfl | cases kinds

variable {full : List ChatMessage} {messages : List Source.ChatMessage}

theorem Stands.threadKey {m : ChatMessage} {simple : Source.ChatMessage}
    (stands : Stands m simple) : m.threadKey = valueOf simple.threadKey := by
  have target := stands.targetMode
  have peer : m.peerId.getD m.fromClientId = (simple.peerId.getD simple.fromClientId : Nat) := by
    rw [stands.peerId, stands.fromClientId]
    cases simple.peerId <;> rfl
  rw [ChatMessage.threadKey, Source.ChatMessage.threadKey, target, peer]
  by_cases one : simple.targetMode = 1
  · simp [one, valueOf]
  · by_cases three : simple.targetMode = 3
    · simp [three, valueOf]
    · have other : (simple.targetMode : Int) ≠ 1 ∧ (simple.targetMode : Int) ≠ 3 := by omega
      rw [if_neg other.1, if_neg other.2]
      split
      · contradiction
      · contradiction
      · rfl

theorem map_threadKey (same : List.Forall₂ Stands full messages) :
    full.map (·.threadKey) = (messages.map (·.threadKey)).map valueOf := by
  induction same with
  | nil => rfl
  | cons first _ ih => rw [List.map_cons, List.map_cons, List.map_cons, ih, first.threadKey]

theorem filter_stands (same : List.Forall₂ Stands full messages) (key : Source.ChatThreadKey) :
    List.Forall₂ Stands (full.filter (·.threadKey = valueOf key))
      (messages.filter (·.threadKey = key)) := by
  refine List.rel_filter (fun m simple stands => ?_) same
  simp only [decide_eq_true_eq, stands.threadKey, valueOf_injective.eq_iff]

theorem times_stand (same : List.Forall₂ Stands full messages) :
    full.map (·.timestamp.microsecondsSinceEpoch) =
      messages.map fun m => (1000 * m.timestamp : Int) := by
  induction same with
  | nil => rfl
  | cons first _ ih => rw [List.map_cons, List.map_cons, ih, first.timestamp]

theorem senders_stand (same : List.Forall₂ Stands full messages) :
    (full.map fun m => m.peerName.getD m.fromClient) =
      messages.map fun m => m.peerName.getD m.fromClient := by
  induction same with
  | nil => rfl
  | cons first _ ih => rw [List.map_cons, List.map_cons, ih, first.peerName, first.fromClient]

theorem lastTime_stands (same : List.Forall₂ Stands full messages) (key : Source.ChatThreadKey) :
    lastTime (grouped full).byKey (valueOf key) =
      1000 * Source.ChatThread.lastTime messages key := by
  rw [lastTime_grouped, Source.ChatThread.lastTime, ← List.getLast?_map,
    times_stand (filter_stands same key), List.getLast?_map]
  cases (messages.filter (·.threadKey = key)).getLast? <;> rfl

theorem names_stands (same : List.Forall₂ Stands full messages) {key : Source.ChatThreadKey}
    (own : key.isPrivate = true) : (grouped full).names (valueOf key) =
      Source.ChatThread.titleOf (messages.filter (·.threadKey = key)) := by
  rw [names_grouped full ((isPrivate_valueOf key).trans own), Source.ChatThread.titleOf,
    senders_stand (filter_stands same key)]

theorem privateKeys_stand (same : List.Forall₂ Stands full messages) :
    (grouped full).byKey.keys.filter ChatThreadKey.isPrivate =
      ((messages.map (·.threadKey)).filter (·.isPrivate)).eraseDups.map valueOf := by
  rw [keys_grouped, map_threadKey same, eraseDups_map valueOf_injective, List.filter_map,
    filter_eraseDups]
  have kinds : ChatThreadKey.isPrivate ∘ valueOf = fun key => key.isPrivate :=
    funext isPrivate_valueOf
  rw [kinds]

variable {unreadByThread : String → Option Int} {unread : Source.ChatThreadKey → Nat}

theorem threadOf_stands (same : List.Forall₂ Stands full messages)
    (counts : ∀ key, (unreadByThread (valueOf key)).getD 0 = unread key)
    (key : Source.ChatThreadKey) :
    ThreadStands (threadOf full unreadByThread (valueOf key))
      (Source.ChatThread.ofKey messages unread key) where
  key := rfl
  title := by
    rw [threadOf, Source.ChatThread.ofKey, isPrivate_valueOf]
    split
    next own => exact names_stands same own
    next => rfl
  messages := filter_stands same key
  unread := counts key

/-- `ChatThreads` makes the same threads of the messages that stand for these. -/
theorem group_stands (same : List.Forall₂ Stands full messages)
    (counts : ∀ key, (unreadByThread (valueOf key)).getD 0 = unread key) :
    List.Forall₂ ThreadStands (group full unreadByThread (.stable _))
      (Source.ChatThread.group messages unread) := by
  have sorted : (ListSort.stable (byLastTime (grouped full).byKey)).sort
      ((grouped full).byKey.keys.filter ChatThreadKey.isPrivate) =
        (((messages.map (·.threadKey)).filter (·.isPrivate)).eraseDups.mergeSort fun left right =>
          decide (Source.ChatThread.lastTime messages right ≤
            Source.ChatThread.lastTime messages left)).map valueOf := by
    rw [privateKeys_stand same]
    refine (List.map_mergeSort fun left _ right _ => ?_).symm
    simp only [byLastTime, Comparator.onRank, Int.sign_nonpos_iff, lastTime_stands same]
    exact decide_eq_decide.mpr (by omega)
  have keys : ChatThreadKey.channel :: ChatThreadKey.server ::
      (ListSort.stable (byLastTime (grouped full).byKey)).sort
        ((grouped full).byKey.keys.filter ChatThreadKey.isPrivate) =
          (Source.ChatThread.keys messages).map valueOf := by
    rw [sorted]
    rfl
  rw [group_eq, keys, Source.ChatThread.group, List.map_map, List.forall₂_map_left_iff,
    List.forall₂_map_right_iff, List.forall₂_same]
  exact fun key _ => threadOf_stands same counts key

end Stands

namespace ChatHistoryService

section Encode

variable (zone : TimeZone)

def toJson (message : ChatMessage) : Value :=
  .map ([("id", .int message.id), ("from", .string message.fromClient),
    ("from_id", .int message.fromClientId), ("target", .int message.targetMode),
    ("text", .string message.message), ("ts", .string (message.timestamp.toIso8601String zone))] ++
    (message.peerId.map fun peerId => ("peer", Value.int peerId)).toList ++
    (message.peerName.map fun peerName => ("peer_name", Value.string peerName)).toList)

def encode (messages : List ChatMessage) : Value := .list (messages.map (toJson zone))

end Encode

section Decode

/-- `as int?`; `none` if it throws. -/
def asInt : Value → Option (Option Int)
  | .null => some none
  | .int value => some (some value)
  | _ => none

/-- `as String?` -/
def asString : Value → Option (Option String)
  | .null => some none
  | .string value => some (some value)
  | _ => none

variable (zone : TimeZone)

/-- `_messageFromJson`: `none` if a cast throws, and no message without a usable time. -/
def messageFromJson (json : Value) : Option (Option ChatMessage) := do
  let .map _ := json | none
  let ts ← asString (json.get "ts")
  match DateTime.tryParse zone (ts.getD "") with
  | none => some none
  | some timestamp =>
    let id ← asInt (json.get "id")
    let fromClient ← asString (json.get "from")
    let fromClientId ← asInt (json.get "from_id")
    let targetMode ← asInt (json.get "target")
    let message ← asString (json.get "text")
    let peerId ← asInt (json.get "peer")
    let peerName ← asString (json.get "peer_name")
    let message : ChatMessage :=
      { id := id.getD 0
        fromClient := fromClient.getD ""
        fromClientId := fromClientId.getD 0
        targetMode := targetMode.getD 2
        message := message.getD ""
        timestamp, peerId, peerName }
    some (some message)

/-- What is thrown discards the whole history. -/
def decode (raw : Option Value) : List ChatMessage :=
  match raw with
  | some (.list entries) => ((entries.mapM (messageFromJson zone)).getD []).filterMap id
  | _ => []

end Decode

end ChatHistoryService

end Nek0.Source.Chat
